import LiquidityTrigger.Node.Session
import Mathlib.Data.List.Induction

/-!
# One request

What a client does with one request to a node that it reaches: it sends it under its next identifier,
takes the next of the node's answers and hears what that answer is under this identifier, or nothing until
its timeout. Neither what is heard nor whether anything is heard changes what was sent, so every kind of
failure leaves the same client and the same node behind. Only an answer that drops the connection ends the
client; `KeepsConnection` excludes it.
-/

namespace LiquidityTrigger.Node

open Json (Value)

/-! ### The node's answers -/

namespace Script

/-- The answer to a request for a method, by the number of such requests before it. The last answer is
repeated. -/
def reply (script : Script) (method : String) (place : Nat) : Answer :=
  let answers := (List.lookup method script).getD []
  (answers[min place (answers.length - 1)]?).getD (.result .null)

def KeepsConnection (script : Script) : Prop := ∀ entry ∈ script, Answer.drop ∉ entry.2

variable {script : Script} {method other : String}

theorem take_cons_self (answers : List Answer) (rest : Script) :
    take method ((method, answers) :: rest) =
      (answers.head?.getD (.result .null),
        (method, if answers.length ≤ 1 then answers else answers.tail) :: rest) := by
  match answers with
  | [] => simp [take]
  | [_] => simp [take]
  | _ :: _ :: _ => simp [take]

theorem take_cons_of_ne {name : String} (h : name ≠ method) (answers : List Answer) (rest : Script) :
    take method ((name, answers) :: rest) =
      ((take method rest).1, (name, answers) :: (take method rest).2) := by
  simp only [take, if_neg h]

theorem fst_take (script : Script) (method : String) : (take method script).1 = script.reply method 0 := by
  induction script with
  | nil => rfl
  | cons entry rest ih =>
      obtain ⟨name, answers⟩ := entry
      by_cases h : name = method
      · subst h
        rw [take_cons_self, reply]
        simp [List.head?_eq_getElem?]
      · rw [take_cons_of_ne h, ih, reply, reply, List.lookup_cons, beq_false_of_ne (Ne.symm h)]

theorem reply_snd_take (script : Script) (method : String) (place : Nat) :
    (take method script).2.reply method place = script.reply method (place + 1) := by
  induction script with
  | nil => rfl
  | cons entry rest ih =>
      obtain ⟨name, answers⟩ := entry
      by_cases h : name = method
      · subst h
        rw [take_cons_self]
        simp only [reply, List.lookup_cons, beq_self_eq_true, Option.getD_some]
        by_cases hlast : answers.length ≤ 1
        · have hfirst (n : Nat) : min n (answers.length - 1) = 0 := by omega
          rw [if_pos hlast, hfirst, hfirst]
        · rw [if_neg hlast, List.getElem?_tail, List.length_tail]
          have hplace : min place (answers.length - 1 - 1) + 1 = min (place + 1) (answers.length - 1) := by
            omega
          rw [hplace]
      · rw [take_cons_of_ne h]
        simpa only [reply, List.lookup_cons, beq_false_of_ne (Ne.symm h)] using ih

theorem reply_snd_take_of_ne (script : Script) (h : other ≠ method) (place : Nat) :
    (take method script).2.reply other place = script.reply other place := by
  induction script with
  | nil => rfl
  | cons entry rest ih =>
      obtain ⟨name, answers⟩ := entry
      by_cases hname : name = method
      · subst hname
        rw [take_cons_self]
        simp only [reply, List.lookup_cons, beq_false_of_ne h]
      · rw [take_cons_of_ne hname]
        by_cases hother : other = name
        · subst hother
          simp only [reply, List.lookup_cons, beq_self_eq_true]
        · simpa only [reply, List.lookup_cons, beq_false_of_ne hother] using ih

theorem KeepsConnection.take (h : script.KeepsConnection) :
    (take method script).1 ≠ .drop ∧ (Script.take method script).2.KeepsConnection := by
  induction script with
  | nil => exact ⟨Answer.noConfusion, h⟩
  | cons entry rest ih =>
      obtain ⟨name, answers⟩ := entry
      have hanswers : Answer.drop ∉ answers := h (name, answers) List.mem_cons_self
      have hrest : KeepsConnection rest := fun entry hentry => h entry (List.mem_cons_of_mem _ hentry)
      by_cases hname : name = method
      · subst hname
        rw [take_cons_self]
        constructor
        · match answers with
          | [] => exact Answer.noConfusion
          | answer :: more => exact fun hdrop => hanswers (by simpa using .inl hdrop.symm)
        · intro entry hentry
          rcases List.mem_cons.mp hentry with rfl | hentry
          · intro hdrop
            split at hdrop
            · exact hanswers hdrop
            · exact hanswers (List.mem_of_mem_tail hdrop)
          · exact hrest entry hentry
      · rw [take_cons_of_ne hname]
        obtain ⟨hfirst, hbehind⟩ := ih hrest
        refine ⟨hfirst, fun entry hentry => ?_⟩
        rcases List.mem_cons.mp hentry with rfl | hentry
        · exact hanswers
        · exact hbehind entry hentry

end Script

/-! ### One request of a client -/

namespace Client

variable {α : Type}

/-- What a client hears of an answer to its next request, and when. -/
def hears (c : Client) (method : String) (decode : Value → Except ResponseFault α) (answer : Answer) :
    Reply α :=
  match c.transport.read c.nextId answer with
  | none => ⟨.error (timeoutFault method c.timeout), c.timeout⟩
  | some given => ⟨(given.bind decode).mapError (responseFault method), 0⟩

def next (c : Client) : Client := { c with nextId := c.nextId + 1 }

structure Live (c : Client) : Prop where
  connected : c.connected = true
  patient : c.timeout ≠ 0

variable {c : Client} {w : World} {method : String} {params : Value}
  {decode : Value → Except ResponseFault α}

/-- Whoever hears a result hears it at once. -/
theorem delay_of_hears_ok {answer : Answer} {a : α} (h : (c.hears method decode answer).result = .ok a) :
    (c.hears method decode answer).delay = 0 := by
  rw [hears] at h ⊢
  split at h
  · cases h
  · rfl

theorem keeps_of_hears_ok {answer : Answer} {a : α} (h : (c.hears method decode answer).result = .ok a) :
    c.transport.endsWith answer = false := by
  cases answer with
  | drop =>
      cases htransport : c.transport with
      | http => rfl
      | webSocket =>
          rw [hears, htransport] at h
          cases h
  | _ => cases c.transport <;> rfl

theorem request_of_reached (hlive : c.Live) (hnetwork : w.network = .reachable) :
    c.request method params decode w =
      (c.hears method decode (w.script.reply method 0),
        { c.next with connected := !c.transport.endsWith (w.script.reply method 0) },
        { w with
          script := (w.script.take method).2
          received := w.received ++ [⟨c.index, c.nextId, method, params⟩] }) := by
  have hsent : (!c.connected || w.network ≠ .reachable) = false := by
    simp [hlive.connected, hnetwork]
  rw [request, hears, ← Script.fst_take]
  simp only [hsent, hlive.patient, if_false, Bool.false_eq_true]
  cases c.transport.read c.nextId (w.script.take method).1 with
  | none => rfl
  | some given => rfl

/-- A request that reaches the node and does not lose the connection. -/
theorem request_of_live (hlive : c.Live) (hnetwork : w.network = .reachable)
    (hdrop : (w.script.take method).1 ≠ .drop) :
    c.request method params decode w =
      (c.hears method decode (w.script.reply method 0), c.next,
        { w with
          script := (w.script.take method).2
          received := w.received ++ [⟨c.index, c.nextId, method, params⟩] }) := by
  have hends : c.transport.endsWith (w.script.reply method 0) = false := by
    rw [← Script.fst_take]
    cases htransport : c.transport <;> cases hanswer : (w.script.take method).1 <;>
      simp_all [Transport.endsWith]
  rw [request_of_reached hlive hnetwork, hends]
  simp [next, hlive.connected]

end Client

end LiquidityTrigger.Node
