import LiquidityTrigger.Proofs.Node.Response

/-!
# Answers that name the network

A client that asks for the network is answered by a text, and hears it, exactly when the answer names the
network: it is a text as a result, or a body that spells a response with one. Over HTTP the status must be
that of a success with content; over a WebSocket the response must have the request's identifier and may
be the first one of a list. Nothing else is ever heard as a text: a result of another form is written so that
it does not read back as one, and a response with an error has no result to read.
-/

namespace LiquidityTrigger.Node

open Json (Value)

/-! ### What names the network -/

/-- A body that spells a response to a request with an identifier, the response having this result. -/
def Transport.Spells (t : Transport) (id : UInt64) (status : Nat) (body : String) (result : Value) : Prop :=
  ∃ v, Value.parse depthLimit body = .ok v ∧
    match t with
    | .http => status ≠ noContent ∧ 200 ≤ status ∧ status < 300 ∧
        ∃ ident, response? v = some ⟨ident, .ok result⟩
    | .webSocket => (response? v <|> firstOfBatch? v) = some ⟨.number id, .ok result⟩

/-- An answer to a request with an identifier that gives the network's name. -/
def Answer.Names (t : Transport) (id : UInt64) (name : String) : Answer → Prop
  | .result v => v = .text name
  | .body text status ignored =>
      ignored = false ∧
        t.Spells id status (String.ofList (replaceId (Decimal.digits id.toNat) 0 text.toList)) (.text name)
  | .error _ => False
  | .silence => False
  | .drop => False

/-! ### Bodies and messages -/

theorem result_eq_ok_iff {r : Response} {result : Value} : r.result = .ok result ↔ r.outcome = .ok result :=
  mapError_eq_ok_iff

theorem parse_eq_ok_iff {depth : Nat} {text : String} {v : Value} :
    Value.parse depth text = .ok v ↔
      ∃ rest, Json.readValue depth text.toList = .ok (v, rest) ∧ Json.skipBlank rest = [] := by
  rw [Value.parse, bind_eq_ok]
  constructor
  · rintro ⟨⟨read, rest⟩, hread, h⟩
    dsimp only at h
    split at h
    · rename_i hend
      cases h
      exact ⟨rest, hread, List.isEmpty_iff.mp hend⟩
    · cases h
  · rintro ⟨rest, hread, hend⟩
    exact ⟨(v, rest), hread, if_pos (List.isEmpty_iff.mpr hend)⟩

theorem readBody_eq_ok_iff {body : String} {result : Value} :
    readBody body = .ok result ↔
      ∃ v ident, Value.parse depthLimit body = .ok v ∧ response? v = some ⟨ident, .ok result⟩ := by
  simp only [parse_eq_ok_iff, readBody]
  cases hread : Json.readValue depthLimit body.toList with
  | error fault => simp
  | ok read =>
      obtain ⟨v, rest⟩ := read
      cases hresponse : response? v with
      | none => simp [hresponse]
      | some r =>
          obtain ⟨ident, outcome⟩ := r
          by_cases hend : (Json.skipBlank rest).isEmpty = true
          · simp [hresponse, result_eq_ok_iff, List.isEmpty_iff.mp hend]
          · have hne : Json.skipBlank rest ≠ [] := fun h => hend (List.isEmpty_iff.mpr h)
            simp [hresponse, hend, hne]

/-- Of a list of responses only the first one counts. -/
theorem readMessage_eq_ok_iff {id : UInt64} {message : String} {result : Value} :
    readMessage id message = some (.ok result) ↔
      ∃ v, Value.parse depthLimit message = .ok v ∧
        (response? v <|> firstOfBatch? v) = some ⟨.number id, .ok result⟩ := by
  have hparse (v : Value) : (Value.parse depthLimit message).toOption = some v ↔
      Value.parse depthLimit message = .ok v := by
    cases Value.parse depthLimit message <;> simp [Except.toOption]
  rw [readMessage, Option.bind_eq_bind, Option.bind_eq_some_iff]
  refine exists_congr fun v => and_congr (hparse v) ?_
  rw [Option.bind_eq_bind, Option.bind_eq_some_iff]
  constructor
  · rintro ⟨⟨ident, outcome⟩, hresponse, h⟩
    dsimp only at h
    split at h
    · rename_i hid
      have houtcome : outcome = .ok result := result_eq_ok_iff.mp (Option.some.inj h)
      rw [hresponse, hid, houtcome]
    · cases h
  · intro hresponse
    exact ⟨_, hresponse, by rw [if_pos rfl]; rfl⟩

theorem valuesOf_of_response? {members : List (String × Value)} {ident : ResponseId} {result : Value}
    (h : response? (.object members) = some ⟨ident, .ok result⟩) :
    valuesOf "result" members = [result] ∧ valuesOf "error" members = [] := by
  rw [response?] at h
  split at h
  · split at h
    · rename_i hresult herror
      obtain ⟨name, -, h⟩ := Option.bind_eq_some_iff.mp h
      cases h
      exact ⟨hresult, herror⟩
    · obtain ⟨name, -, h⟩ := Option.bind_eq_some_iff.mp h
      obtain ⟨object, -, h⟩ := Option.bind_eq_some_iff.mp h
      cases h
    · cases h
  · cases h

/-! ### Answers of the node -/

section

variable {t : Transport} {id : UInt64} {answer : Answer} {body name : String} {status : Nat} {result v : Value}

theorem readBody_empty_ne : readBody "" ≠ .ok result := by
  intro h
  cases h

theorem Transport.read_eq_ok_iff (hignored : answer.isIgnored = false)
    (hbody : answer.body? id = some (body, status)) :
    t.read id answer = some (.ok result) ↔ t.Spells id status body result := by
  have hread : t.read id answer =
      match t with
      | .http =>
          if status = noContent then some (readBody "")
          else if 200 ≤ status ∧ status < 300 then some (readBody body)
          else some (.error (.status status))
      | .webSocket => readMessage id body := by
    unfold read
    rw [hignored, if_neg Bool.false_ne_true, hbody]
    cases t <;> cases answer <;> first | rfl | cases hbody
  rw [hread]
  cases t with
  | http =>
      by_cases hcontent : status = noContent
      · simp [Spells, hcontent, readBody_empty_ne]
      · by_cases hsuccess : 200 ≤ status ∧ status < 300
        · simp [Spells, hcontent, hsuccess, readBody_eq_ok_iff]
        · simp only [Spells, if_neg hcontent, if_neg hsuccess]
          constructor
          · intro h
            cases h
          · rintro ⟨v, -, -, hlow, hhigh, -⟩
            exact absurd ⟨hlow, hhigh⟩ hsuccess
  | webSocket => exact readMessage_eq_ok_iff

theorem Transport.Spells.exists_member (h : t.Spells id status (responseText id name v) result) :
    ∃ members a behind, (∃ ident, response? (.object members) = some ⟨ident, .ok result⟩) ∧
      (name, a) ∈ members ∧ Json.readValue 127 (v.render .compact 1 ++ ['\x7d']) = .ok (a, behind) := by
  obtain ⟨read, hparse, hresponse⟩ := h
  obtain ⟨rest, hread, -⟩ := parse_eq_ok_iff.mp hparse
  obtain ⟨members, a, behind, rfl, hmember, ha⟩ := exists_of_readValue_responseText hread
  refine ⟨members, a, behind, ?_, hmember, ha⟩
  cases t with
  | http => exact hresponse.2.2.2
  | webSocket =>
      -- An object is no list of responses.
      have hobject : (response? (.object members) <|> none) = response? (.object members) := by simp
      exact ⟨.number id, hobject.symm.trans hresponse⟩

theorem mem_valuesOf {key : String} {members : List (String × Value)} (h : (key, v) ∈ members) :
    v ∈ valuesOf key members := List.mem_filterMap.mpr ⟨(key, v), h, if_pos rfl⟩

/-- A value that the node sends as a result is heard as a text only if it is that text. -/
theorem Transport.Spells.eq_of_result {s : String}
    (h : t.Spells id status (responseText id "result" v) (.text s)) : ∃ written, v = .text written := by
  obtain ⟨members, a, behind, ⟨ident, hresponse⟩, hmember, ha⟩ := h.exists_member
  have hvalues := mem_valuesOf hmember
  rw [(valuesOf_of_response? hresponse).1, List.mem_singleton] at hvalues
  rw [hvalues] at ha
  exact Json.eq_text_of_readValue_render ha

theorem Transport.not_spells_error : ¬ t.Spells id status (responseText id "error" v) result := by
  intro h
  obtain ⟨members, a, behind, ⟨ident, hresponse⟩, hmember, -⟩ := h.exists_member
  have hvalues := mem_valuesOf hmember
  rw [(valuesOf_of_response? hresponse).2] at hvalues
  exact List.not_mem_nil hvalues

theorem Transport.read_eq_text_iff :
    t.read id answer = some (.ok (.text name)) ↔ answer.Names t id name := by
  cases answer with
  | result v =>
      constructor
      · intro h
        obtain ⟨written, rfl⟩ := ((read_eq_ok_iff rfl rfl).mp h).eq_of_result
        rw [t.read_text] at h
        cases h
        rfl
      · rintro rfl
        exact t.read_text id name
  | error v =>
      rw [read_eq_ok_iff rfl rfl]
      exact iff_false_intro not_spells_error
  | body text status ignored =>
      cases ignored with
      | false =>
          rw [read_eq_ok_iff rfl rfl]
          exact (and_iff_right rfl).symm
      | true =>
          constructor
          · intro h
            cases h
          · rintro ⟨h, -⟩
            cases h
  | silence => cases t <;> exact iff_of_false (fun h => by cases h) False.elim
  | drop => cases t <;> exact iff_of_false (fun h => by cases h) False.elim

end

/-- A client hears a text, and at once, exactly from an answer that names the network. -/
theorem Client.hears_text_iff {c : Client} {answer : Answer} {name : String} :
    (c.hears networkMethod textResult answer).result = .ok name ↔
      answer.Names c.transport c.nextId name := by
  rw [← Transport.read_eq_text_iff, hears]
  cases c.transport.read c.nextId answer with
  | none => simp
  | some given =>
      dsimp only
      rw [mapError_eq_ok_iff, Option.some.injEq]
      cases given with
      | error fault => simp [Except.bind]
      | ok v => cases v <;> simp [Except.bind, textResult]

end LiquidityTrigger.Node
