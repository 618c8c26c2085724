import LiquidityTrigger.Node.Client
import LiquidityTrigger.Proofs.Json.Tree
import LiquidityTrigger.Proofs.Node.Request

/-!
# The bytes of a result

A result that is marked hexadecimal text is heard as the bytes that its digits spell: the response that
the node writes reads back, over HTTP as a body and over a WebSocket as a message under its identifier, and
its digits are taken for what they denote. A read that a client sends says as plainly which contract it
asks and what. And the other way round, whatever is read of the response that holds a value is an object with
what is read of that value's text as a member.
-/

namespace LiquidityTrigger.Node

open Json (Value)

/-! ### Responses -/

def resultMembers (id : UInt64) (v : Value) : List (String × Value) :=
  [("jsonrpc", .text "2.0"), ("id", .counter id), ("result", v)]

section

variable (id : UInt64) (name : String) (v : Value)

/-- The member of a response that holds its value, up to the brace behind it. -/
def valueMember : List Char :=
  Json.separator false ++ (Json.quote name ++ ':' :: (v.render .compact 1 ++ ['\x7d']))

def idMember : List Char :=
  Json.separator false ++ (Json.quote "id" ++ ':' ::
    ((Json.Number.counter id).text.toList ++ valueMember name v))

def versionMember : List Char :=
  Json.separator true ++ (Json.quote "jsonrpc" ++ ':' :: (Json.quote "2.0" ++ idMember id name v))

theorem toList_responseText : (responseText id name v).toList = '\x7b' :: versionMember id name v := by
  simp [responseText, Value.compact, Value.render, Value.counter, Json.renderMembers,
    Json.Style.compact, Json.separator, versionMember, idMember, valueMember]

theorem readValue_idMember :
    Json.readValue 127 ((Json.Number.counter id).text.toList ++ valueMember name v) =
      .ok (.counter id, valueMember name v) :=
  Json.readValue_counter 126 _ (Json.closed_cons (by decide) _)

theorem exists_length_versionMember :
    ∃ bound, (versionMember id name v).length = bound + 3 :=
  Nat.exists_eq_add_of_le' (Nat.le_add_left 3 _)

end

theorem readValue_responseText (id : UInt64) {v : Value} (hv : v.Plain 127) :
    Json.readValue depthLimit (responseText id "result" v).toList =
      .ok (.object (resultMembers id v), []) := by
  have hmembers : (Value.object (resultMembers id v)).Plain 128 := by
    refine ⟨by decide, ?_⟩
    intro member hmember
    simp only [resultMembers, List.mem_cons, List.not_mem_nil, or_false] at hmember
    rcases hmember with rfl | rfl | rfl
    · exact trivial
    · exact trivial
    · exact hv
  have hread := (hmembers.readValue_restores Json.Style.blank_compact 0).apply Json.closed_nil
  rwa [List.append_nil, ← String.toList_ofList (l := Value.render _ _ _)] at hread

theorem exists_of_readValue_responseText {id : UInt64} {name : String} {v read : Value} {tail : List Char}
    (h : Json.readValue depthLimit (responseText id name v).toList = .ok (read, tail)) :
    ∃ members a behind, read = .object members ∧ (name, a) ∈ members ∧
      Json.readValue 127 (v.render .compact 1 ++ ['\x7d']) = .ok (a, behind) := by
  obtain ⟨bound, hbound⟩ := exists_length_versionMember id name v
  rw [toList_responseText] at h
  obtain ⟨members, hmembers, rfl⟩ := Json.exists_of_readValue_object h
  rw [hbound] at hmembers
  obtain ⟨version, behind, members, hversion, hmembers, rfl⟩ := Json.exists_of_readMembers hmembers
  cases (Json.readValue_quote 126 "2.0" _).symm.trans hversion
  obtain ⟨ident, behind, members, hident, hmembers, rfl⟩ := Json.exists_of_readMembers hmembers
  cases (readValue_idMember id name v).symm.trans hident
  obtain ⟨a, behind, others, ha, -, rfl⟩ := Json.exists_of_readMembers hmembers
  exact ⟨_, a, behind, rfl, by simp, ha⟩

theorem response?_resultMembers (id : UInt64) (v : Value) :
    response? (.object (resultMembers id v)) =
      some ⟨.number id, .ok v⟩ := by
  simp [response?, resultMembers, valuesOf, isVersion, responseId?, Value.counter]

theorem readBody_responseText (id : UInt64) {v : Value} (hv : v.Plain 127) :
    readBody (responseText id "result" v) = .ok v := by
  rw [readBody, readValue_responseText id hv]
  simp only [response?_resultMembers]
  rfl

/-- A message is for the request whose identifier it has. -/
theorem readMessage_responseText (id : UInt64) {v : Value} (hv : v.Plain 127) :
    readMessage id (responseText id "result" v) = some (.ok v) := by
  have hparse : Value.parse depthLimit (responseText id "result" v) = .ok (.object (resultMembers id v)) := by
    rw [Value.parse, readValue_responseText id hv]
    rfl
  rw [readMessage, hparse]
  simp [response?_resultMembers, Except.toOption, Response.result, Except.mapError]

theorem Transport.read_plain (t : Transport) (id : UInt64) {v : Value} (hv : v.Plain 127) :
    t.read id (.result v) = some (.ok v) := by
  cases t with
  | http => simp [read, Answer.isIgnored, Answer.body?, noContent, readBody_responseText id hv]
  | webSocket => simp [read, Answer.isIgnored, Answer.body?, readMessage_responseText id hv]

theorem Transport.read_text (t : Transport) (id : UInt64) (s : String) :
    t.read id (.result (.text s)) = some (.ok (.text s)) := t.read_plain id trivial

/-! ### Bytes -/

/-- The bytes that an answer gives as marked hexadecimal digits. -/
def Answer.bytes? : Answer → Option Bytes
  | .result (.text s) =>
      match s.toList with
      | '0' :: 'x' :: digits => Hex.toBytes? digits
      | _ => none
  | _ => none

theorem Answer.bytes?_hex (bytes : Bytes) : (Answer.result (.text bytes.hex)).bytes? = some bytes := by
  rw [Answer.bytes?, bytes.toList_hex]
  exact Hex.toBytes?_ofBytes bytes

theorem badDigit?_digits {digits : List Char} (h : ∀ c ∈ digits, (Hex.digitValue? c).isSome)
    (place : Nat) : badDigit? place (digits.map fun c => UInt8.ofNat c.toNat) = none := by
  induction digits generalizing place with
  | nil => rfl
  | cons c digits ih =>
      obtain ⟨hc, hdigits⟩ := List.forall_mem_cons.mp h
      rw [List.map_cons, badDigit?, Hex.ofNat_toNat_ofNat hc, if_pos hc]
      exact ih hdigits (place + 1)

theorem bytesResult_of_bytes? {s : String} {bytes : Bytes}
    (h : (Answer.result (.text s)).bytes? = some bytes) : bytesResult (.text s) = .ok bytes := by
  rw [Answer.bytes?] at h
  split at h
  · rename_i digits hs
    obtain ⟨heven, hdigits⟩ := (Hex.toBytes?_isSome_iff digits).mp (Option.isSome_of_eq_some h)
    have hodd : ¬ (Utf8.encode digits).length % 2 = 1 := by
      rw [Hex.encode_digits hdigits, List.length_map]
      omega
    have hgood : badDigit? 0 (Utf8.encode digits) = none := by
      rw [Hex.encode_digits hdigits, badDigit?_digits hdigits]
    rw [bytesResult, hs]
    simp only [if_neg hodd, hgood, h, Option.getD_some]
  · cases h

/-- A client that is given bytes by the node hears them at once. -/
theorem Client.hears_of_bytes? {c : Client} {answer : Answer} {bytes : Bytes}
    (h : answer.bytes? = some bytes) :
    c.hears callMethod bytesResult answer = ⟨.ok bytes, 0⟩ := by
  rcases answer with (_ | _ | _ | s | _ | _) | _ | _ | _ | _
  case result.text =>
    have hresult := bytesResult_of_bytes? h
    rw [hears, c.transport.read_text]
    simp only [Except.bind, hresult]
    rfl
  all_goals cases h

end LiquidityTrigger.Node
