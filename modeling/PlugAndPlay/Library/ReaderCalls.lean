import PlugAndPlay.Library.RemoteCalls
import PlugAndPlay.Library.StreamReader

/-!
# Remote calls by readers

Server and clients that take their messages with readers, where a reader that fails on what has arrived waits for
more. A reader is stable if more to come does not change what it has taken; then no proper part of a message that
it takes is enough for it.
-/

namespace PlugAndPlay.Library

variable {σ ε α β : Type}

namespace StreamReader

/-- What the reader has taken it also takes when more has come. -/
def Stable (reader : StreamReader σ ε α) : Prop :=
  ∀ ahead value rest, reader ahead = .ok (value, rest) → ∀ more, reader (ahead ++ more) = .ok (value, rest ++ more)

theorem stable_pure (value : α) : Stable (pure value : StreamReader σ ε α) := by
  intro ahead found rest h more
  cases h
  rfl

theorem stable_throw (fault : ε) : Stable (throw fault : StreamReader σ ε α) := by
  intro ahead value rest h
  cases h

theorem Stable.bind {reader : StreamReader σ ε α} {next : α → StreamReader σ ε β} (h : Stable reader)
    (hnext : ∀ value, Stable (next value)) : Stable (reader >>= next) := by
  intro ahead result rest hrun more
  obtain ⟨value, middle, hfirst, hlast⟩ := bind_eq_ok hrun
  calc (reader >>= next) (ahead ++ more) = next value (middle ++ more) := bind_of_run (h _ _ _ hfirst more) next
    _ = .ok (result, rest ++ more) := hnext value _ _ _ hlast more

/-- A reader that goes on with what it has taken. -/
theorem Stable.last {reader : StreamReader σ ε α} (h : Stable reader) (result : α → β) :
    Stable (reader >>= fun value ↦ pure (result value)) :=
  h.bind fun value ↦ stable_pure (result value)

theorem stable_next (fault : ε) (count : ℕ) : Stable (next fault count : StreamReader σ ε (List σ)) := by
  intro ahead value rest h more
  obtain ⟨hcount, hfound⟩ : count ≤ ahead.length ∧ (ahead.take count, ahead.drop count) = (value, rest) := by
    unfold next at h
    split at h
    · rename_i hcount
      exact ⟨hcount, Except.ok.inj h⟩
    · cases h
  obtain ⟨rfl, rfl⟩ := Prod.mk.inj hfound
  have hmore : count ≤ (ahead ++ more).length := by
    rw [List.length_append]
    exact Nat.le_add_right_of_le hcount
  unfold next
  rw [if_pos hmore, List.take_append_of_le_length hcount, List.drop_append_of_le_length hcount]

theorem stable_inOrder {readers : List (StreamReader σ ε α)} (h : ∀ reader ∈ readers, Stable reader) :
    Stable (inOrder readers) := by
  induction readers with
  | nil => exact stable_pure []
  | cons reader readers ih =>
    apply (h reader List.mem_cons_self).bind
    intro first
    exact (ih fun other hother ↦ h other (List.mem_cons_of_mem _ hother)).last (first :: ·)

/-- As many readings of one kind as are announced. -/
theorem Stable.replicate {reader : StreamReader σ ε α} (h : Stable reader) (count : ℕ) :
    Stable (inOrder (List.replicate count reader)) := by
  apply stable_inOrder
  intro other hother
  rw [List.eq_of_mem_replicate hother]
  exact h

theorem stable_number (fault : ε) (width : ℕ) : Stable (number fault width) :=
  (stable_next fault width).last ofLittleEndian

/-- What the reader makes of what has arrived; when that is not enough it waits. -/
def attempt (reader : StreamReader σ ε α) (arrived : List σ) : Option (α × List σ) := (reader arrived).toOption

/-- Before a word has arrived whole the reader waits. -/
theorem Stable.attempt_part {reader : StreamReader σ ε α} {word part : List σ} {value : α} (h : Stable reader)
    (hword : Reads reader word value) (hbegins : part <+: word) (hpart : part ≠ word) :
    attempt reader part = none := by
  obtain ⟨more, rfl⟩ := hbegins
  cases hrun : reader part with
  | error fault =>
    unfold attempt
    rw [hrun]
    rfl
  | ok found =>
    obtain ⟨found, rest⟩ := found
    have hwhole : (.ok (found, rest ++ more) : Except ε (α × List σ)) = .ok (value, []) := by
      rw [← h _ _ _ hrun more]
      exact hword.whole
    have hmore : more = [] := (List.append_eq_nil_iff.mp (Prod.mk.inj (Except.ok.inj hwhole)).2).2
    rw [hmore, List.append_nil] at hpart
    exact absurd rfl hpart

/-- A reader that begins with one that waits. -/
theorem attempt_bind_nil {reader : StreamReader σ ε α} (h : attempt reader [] = none)
    (next : α → StreamReader σ ε β) : attempt (reader >>= next) [] = none := by
  cases hrun : reader [] with
  | error fault =>
    unfold attempt
    rw [bind_of_fault hrun]
    rfl
  | ok found =>
    unfold attempt at h
    rw [hrun] at h
    cases h

end StreamReader

namespace RemoteCalls

open StreamReader

variable {Client Store Call Reply Notice Asked : Type}

/-- A stable reader takes whole words. -/
theorem takesWhole_attempt {reader : StreamReader σ ε α} {word : List σ} {value : α} (h : Stable reader)
    (hword : Reads reader word value) : TakesWhole (attempt reader) word value where
  whole rest := by
    unfold attempt
    rw [hword rest]
    rfl
  part part hbegins hpart := h.attempt_part hword hbegins hpart

/-- The server listens for what is asked and answers it, or ends; the client hears notices and the reply to its
call. -/
def Protocol.ofReaders (request : Call → Option (List σ)) (listen : Store → StreamReader σ ε Asked)
    (answer : Store → Asked → Option (Store × List σ)) (notify : Notice → Option (List σ))
    (hear : Client → Option Call → StreamReader σ ε (Notice ⊕ Reply)) :
    Protocol σ Client Store Call Reply Notice where
  request := request
  serve store arrived :=
    (attempt (listen store) arrived).bind fun (asked, rest) ↦ (answer store asked).map fun answered ↦ (answered, rest)
  notify := notify
  receive client pending arrived := attempt (hear client pending) arrived

/-- A client that hears the replies to its calls, and nothing without a call. -/
def hearReply (fault : ε) (hear : Client → Call → StreamReader σ ε Reply) (client : Client) :
    Option Call → StreamReader σ ε (Empty ⊕ Reply)
  | none => throw fault
  | some call => do
    let reply ← hear client call
    pure (.inr reply)

variable {request : Call → Option (List σ)} {listen : Store → StreamReader σ ε Asked}
  {answer : Store → Asked → Option (Store × List σ)} {notify : Notice → Option (List σ)}
  {hear : Client → Option Call → StreamReader σ ε (Notice ⊕ Reply)} {act : Store → Call → Store × Reply}
  {holds : Store → Prop} {valid : Store → Call → Prop} {asked : Call → Asked}

/-- Stable readers make a protocol of whole messages. -/
theorem implements_ofReaders (hlisten : ∀ store, Stable (listen store))
    (hhear : ∀ client pending, Stable (hear client pending))
    (hasked : ∀ store call word, holds store → valid store call → request call = some word →
      Reads (listen store) word (asked call))
    (hanswer : ∀ store call word, holds store → valid store call → request call = some word → ∃ reply,
      answer store (asked call) = some ((act store call).1, reply) ∧
        ∀ client, Reads (hear client (some call)) reply (.inr (act store call).2))
    (hnotice : ∀ client pending notice word, notify notice = some word → Reads (hear client pending) word (.inl notice))
    (hkeep : ∀ store call, holds store → valid store call → holds (act store call).1)
    (hothers : ∀ store call other, holds store → valid store call → valid store other →
      valid (act store other).1 call) :
    Implements (Protocol.ofReaders request listen answer notify hear) act holds valid where
  serve client store call word hholds hvalid hrequest := by
    obtain ⟨reply, hreply, hheard⟩ := hanswer store call word hholds hvalid hrequest
    have htaken := takesWhole_attempt (hlisten store) (hasked store call word hholds hvalid hrequest)
    refine ⟨reply, ⟨fun rest ↦ ?_, fun part hbegins hpart ↦ ?_⟩, takesWhole_attempt (hhear client _) (hheard client)⟩
    · show (attempt (listen store) (word ++ rest)).bind _ = _
      rw [htaken.whole]
      show (answer store (asked call)).map _ = _
      rw [hreply]
      rfl
    · show (attempt (listen store) part).bind _ = none
      rw [htaken.part part hbegins hpart]
      rfl
  notice client pending notice word hword :=
    takesWhole_attempt (hhear client pending) (hnotice client pending notice word hword)
  keep := hkeep
  others := hothers

/-- Readers that wait when nothing has arrived. -/
theorem waits_ofReaders (hlisten : ∀ store, attempt (listen store) [] = none)
    (hhear : ∀ client pending, attempt (hear client pending) [] = none) :
    (Protocol.ofReaders request listen answer notify hear).Waits where
  serve store := by
    show (attempt (listen store) []).bind _ = none
    rw [hlisten store]
    rfl
  receive client pending := hhear client pending

section Reply

variable {fault : ε} {hear : Client → Call → StreamReader σ ε Reply} {client : Client}

theorem stable_hearReply (hhear : ∀ client call, Stable (hear client call)) (client : Client) (pending : Option Call) :
    Stable (hearReply fault hear client pending) := by
  cases pending with
  | none => exact stable_throw fault
  | some call => exact (hhear client call).last Sum.inr

theorem waits_hearReply (hhear : ∀ client call, attempt (hear client call) [] = none) (client : Client)
    (pending : Option Call) : attempt (hearReply fault hear client pending) [] = none := by
  cases pending with
  | none => rfl
  | some call => exact attempt_bind_nil (hhear client call) _

theorem reads_hearReply {call : Call} {word : List σ} {reply : Reply} (h : Reads (hear client call) word reply) :
    Reads (hearReply fault hear client (some call)) word (.inr reply) :=
  h.last

end Reply

end RemoteCalls

end PlugAndPlay.Library
