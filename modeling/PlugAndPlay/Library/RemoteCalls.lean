import Mathlib.Data.Fintype.Defs
import Mathlib.Data.List.Basic
import Mathlib.Logic.Function.Basic
import PlugAndPlay.Library.Transitions

/-!
# Remote calls

Clients call a server over streams, each over its own connection and one call at a time. What is sent arrives in
pieces of any size. Between its replies the server may send notices, and others may change the store. If everybody
takes whole messages and waits for the rest of a part of one, every call is served once, as if it had been made on
the store at some point between its request and its reply, and the notices come in order.
-/

namespace PlugAndPlay.Library.RemoteCalls

variable {σ α Client Store Call Reply Notice : Type*}

/-! ## Streams -/

structure Stream (σ : Type*) where
  arrived : List σ
  coming : List σ

namespace Stream

variable (stream : Stream σ)

def empty : Stream σ := ⟨[], []⟩

def contents : List σ := stream.arrived ++ stream.coming

def put (word : List σ) : Stream σ := { stream with coming := stream.coming ++ word }

def deliver (count : ℕ) : Stream σ := ⟨stream.arrived ++ stream.coming.take count, stream.coming.drop count⟩

@[simp] theorem contents_empty : (empty : Stream σ).contents = [] := rfl

@[simp] theorem contents_put (word : List σ) : (stream.put word).contents = stream.contents ++ word :=
  (List.append_assoc _ _ _).symm

@[simp] theorem contents_deliver (count : ℕ) : (stream.deliver count).contents = stream.contents := by
  unfold contents deliver
  rw [List.append_assoc, List.take_append_drop]

theorem arrived_eq_nil {stream : Stream σ} (h : stream.contents = []) : stream.arrived = [] :=
  (List.append_eq_nil_iff.mp h).1

end Stream

/-- Of a stream that begins with the word just the word is taken, and of a part of the word nothing. -/
structure TakesWhole (take : List σ → Option (α × List σ)) (word : List σ) (value : α) : Prop where
  whole : ∀ rest, take (word ++ rest) = some (value, rest)
  part : ∀ part, part <+: word → part ≠ word → take part = none

/-- What is taken of what has arrived is the first word of the stream. -/
theorem TakesWhole.of_arrived {take : List σ → Option (α × List σ)} {word more rest : List σ} {value found : α}
    {stream : Stream σ} (h : TakesWhole take word value) (hcontents : stream.contents = word ++ more)
    (htake : take stream.arrived = some (found, rest)) :
    found = value ∧ (⟨rest, stream.coming⟩ : Stream σ).contents = more := by
  have hwhole : ∃ behind, stream.arrived = word ++ behind ∧ more = behind ++ stream.coming := by
    rcases List.append_eq_append_iff.mp hcontents with ⟨missing, hword, hcoming⟩ | hbehind
    · by_cases hmissing : missing = []
      · rw [hmissing] at hword hcoming
        rw [List.append_nil] at hword
        exact ⟨[], by rw [hword, List.append_nil], hcoming.symm⟩
      · have hpart : stream.arrived ≠ word := by
          intro heq
          rw [heq] at hword
          exact hmissing (List.self_eq_append_right.mp hword)
        cases (h.part _ ⟨missing, hword.symm⟩ hpart).symm.trans htake
    · exact hbehind
  obtain ⟨behind, harrived, rfl⟩ := hwhole
  rw [harrived, h.whole] at htake
  obtain ⟨rfl, rfl⟩ := Prod.mk.inj (Option.some.inj htake)
  exact ⟨rfl, rfl⟩

/-! ## The system -/

/-- What clients send, what the server makes of what has arrived, what it sends on its own, and what a client makes
of what has arrived, with or without a call under way. Whoever has not got enough waits. -/
structure Protocol (σ Client Store Call Reply Notice : Type*) where
  request : Call → Option (List σ)
  serve : Store → List σ → Option ((Store × List σ) × List σ)
  notify : Notice → Option (List σ)
  receive : Client → Option Call → List σ → Option ((Notice ⊕ Reply) × List σ)

structure Connection (σ Call : Type*) where
  pending : Option Call
  up : Stream σ
  down : Stream σ

def Connection.idle : Connection σ Call := ⟨none, .empty, .empty⟩

/-- What has been done to the store. -/
inductive Entry (Client Store Call : Type*)
  | call (client : Client) (call : Call)
  | change (change : Store → Store)

/-- With all that was done to the store, the calls of each client that have returned, and the notices that were sent
to it and those that it has received. -/
structure System (σ Client Store Call Reply Notice : Type*) where
  store : Store
  connections : Client → Connection σ Call
  served : List (Entry Client Store Call)
  returned : Client → List (Call × Reply)
  sent : Client → List Notice
  noticed : Client → List Notice

inductive Event (Client Store Call Notice : Type*)
  | call (client : Client) (call : Call)
  | deliverUp (client : Client) (count : ℕ)
  | serve (client : Client)
  | notify (client : Client) (notice : Notice)
  | change (change : Store → Store)
  | deliverDown (client : Client) (count : ℕ)
  | receive (client : Client)

section Steps

variable [DecidableEq Client] (protocol : Protocol σ Client Store Call Reply Notice)

def System.step (s : System σ Client Store Call Reply Notice) :
    Event Client Store Call Notice → Option (System σ Client Store Call Reply Notice)
  | .call client call =>
    let connection := s.connections client
    if connection.pending.isNone then
      (protocol.request call).map fun word ↦
        let connection := { connection with pending := some call, up := connection.up.put word }
        { s with connections := Function.update s.connections client connection }
    else none
  | .deliverUp client count =>
    let connection := s.connections client
    let connection := { connection with up := connection.up.deliver count }
    some { s with connections := Function.update s.connections client connection }
  | .serve client =>
    let connection := s.connections client
    (protocol.serve s.store connection.up.arrived).map fun ((store, reply), rest) ↦
      { s with
        store := store
        connections := Function.update s.connections client
          { connection with up := ⟨rest, connection.up.coming⟩, down := connection.down.put reply }
        served := s.served ++ connection.pending.toList.map (.call client ·) }
  | .notify client notice =>
    let connection := s.connections client
    (protocol.notify notice).map fun word ↦
      let connection := { connection with down := connection.down.put word }
      { s with
        connections := Function.update s.connections client connection
        sent := Function.update s.sent client (s.sent client ++ [notice]) }
  | .change change => some { s with store := change s.store, served := s.served ++ [.change change] }
  | .deliverDown client count =>
    let connection := s.connections client
    let connection := { connection with down := connection.down.deliver count }
    some { s with connections := Function.update s.connections client connection }
  | .receive client =>
    let connection := s.connections client
    (protocol.receive client connection.pending connection.down.arrived).bind fun
      | (.inl notice, rest) =>
        let connection := { connection with down := ⟨rest, connection.down.coming⟩ }
        some { s with
          connections := Function.update s.connections client connection
          noticed := Function.update s.noticed client (s.noticed client ++ [notice]) }
      | (.inr reply, rest) =>
        connection.pending.map fun call ↦
          let connection := { connection with pending := none, down := ⟨rest, connection.down.coming⟩ }
          { s with
            connections := Function.update s.connections client connection
            returned := Function.update s.returned client (s.returned client ++ [(call, reply)]) }

end Steps

/-! ## Calls on the store itself -/

section Local

variable (act : Store → Call → Store × Reply)

def Entry.apply (store : Store) : Entry Client Store Call → Store
  | .call _ made => (act store made).1
  | .change done => done store

/-- What the entry replies to a client. -/
def Entry.reply [DecidableEq Client] (client : Client) (store : Store) : Entry Client Store Call → List (Call × Reply)
  | .call caller made => if caller = client then [(made, (act store made).2)] else []
  | .change _ => []

/-- The store after all entries. -/
def after (store : Store) (entries : List (Entry Client Store Call)) : Store := entries.foldl (Entry.apply act) store

/-- The calls of a client among the entries, each with its reply. -/
def replies [DecidableEq Client] (client : Client) : Store → List (Entry Client Store Call) → List (Call × Reply)
  | _, [] => []
  | store, entry :: rest => entry.reply act client store ++ replies client (entry.apply act store) rest

theorem after_concat (store : Store) (entries : List (Entry Client Store Call)) (entry : Entry Client Store Call) :
    after act store (entries ++ [entry]) = entry.apply act (after act store entries) :=
  List.foldl_concat _ _ _ _

theorem replies_concat [DecidableEq Client] (client : Client) (store : Store)
    (entries : List (Entry Client Store Call)) (last : Entry Client Store Call) :
    replies act client store (entries ++ [last]) =
      replies act client store entries ++ last.reply act client (after act store entries) := by
  induction entries generalizing store with
  | nil =>
    show last.reply act client store ++ [] = [] ++ last.reply act client store
    rw [List.append_nil, List.nil_append]
  | cons entry rest ih =>
    show entry.reply act client store ++ replies act client _ (rest ++ [last]) = _
    rw [ih, ← List.append_assoc]
    rfl

end Local

/-! ## Protocols of whole messages -/

/-- On a store that is as it has to be, a valid call that was sent is served as a local one, with a reply that the
client takes for the local one; a client takes a notice at any time; the store stays as it has to be; and a call stays
valid whatever others call. -/
structure Implements (protocol : Protocol σ Client Store Call Reply Notice) (act : Store → Call → Store × Reply)
    (holds : Store → Prop) (valid : Store → Call → Prop) : Prop where
  serve : ∀ client store call word, holds store → valid store call → protocol.request call = some word →
    ∃ reply, TakesWhole (protocol.serve store) word ((act store call).1, reply) ∧
      TakesWhole (protocol.receive client (some call)) reply (.inr (act store call).2)
  notice : ∀ client pending notice word, protocol.notify notice = some word →
    TakesWhole (protocol.receive client pending) word (.inl notice)
  keep : ∀ store call, holds store → valid store call → holds (act store call).1
  others : ∀ store call other, holds store → valid store call → valid store other → valid (act store other).1 call

/-- Everybody waits for a message that has not begun. -/
structure Protocol.Waits (protocol : Protocol σ Client Store Call Reply Notice) : Prop where
  serve : ∀ store, protocol.serve store [] = none
  receive : ∀ client pending, protocol.receive client pending [] = none

/-- The notices as they are sent. -/
def Protocol.words (protocol : Protocol σ Client Store Call Reply Notice) (notices : List Notice) : List σ :=
  notices.flatMap fun notice ↦ (protocol.notify notice).getD []

section Runs

variable {protocol : Protocol σ Client Store Call Reply Notice}

@[simp] theorem words_nil : protocol.words [] = [] := rfl

theorem words_cons {notice : Notice} {word : List σ} (h : protocol.notify notice = some word)
    (notices : List Notice) : protocol.words (notice :: notices) = word ++ protocol.words notices := by
  unfold Protocol.words
  rw [List.flatMap_cons, h]
  rfl

theorem words_concat {notice : Notice} {word : List σ} (h : protocol.notify notice = some word)
    (notices : List Notice) : protocol.words (notices ++ [notice]) = protocol.words notices ++ word := by
  unfold Protocol.words
  rw [List.flatMap_append, List.flatMap_singleton, h]
  rfl

/-- The notices that were sent and not received, in order. -/
structure OnTheWay (protocol : Protocol σ Client Store Call Reply Notice) (sent noticed notices : List Notice) :
    Prop where
  sent : sent = noticed ++ notices
  words : ∀ notice ∈ notices, (protocol.notify notice).isSome

/-- Where a call is. -/
inductive Phase (protocol : Protocol σ Client Store Call Reply Notice) (valid : Call → Prop) (client : Client)
    (served returned : List (Call × Reply)) (sent noticed : List Notice) (connection : Connection σ Call) : Prop
  | idle (notices : List Notice) (hpending : connection.pending = none) (hup : connection.up.contents = [])
    (hdown : connection.down.contents = protocol.words notices) (hnotices : OnTheWay protocol sent noticed notices)
    (hserved : served = returned)
  | asked (call : Call) (word : List σ) (notices : List Notice) (hpending : connection.pending = some call)
    (hvalid : valid call) (hrequest : protocol.request call = some word) (hup : connection.up.contents = word)
    (hdown : connection.down.contents = protocol.words notices) (hnotices : OnTheWay protocol sent noticed notices)
    (hserved : served = returned)
  | answered (call : Call) (word : List σ) (reply : Reply) (before behind : List Notice)
    (hpending : connection.pending = some call) (hup : connection.up.contents = [])
    (hdown : connection.down.contents = protocol.words before ++ (word ++ protocol.words behind))
    (hreceive : TakesWhole (protocol.receive client (some call)) word (.inr reply))
    (hnotices : OnTheWay protocol sent noticed (before ++ behind)) (hserved : served = returned ++ [(call, reply)])

variable {valid : Call → Prop} {client : Client} {served returned : List (Call × Reply)} {sent noticed : List Notice}
  {connection connection' : Connection σ Call} {notice : Notice} {notices : List Notice} {word : List σ}

theorem OnTheWay.notify (h : OnTheWay protocol sent noticed notices) (hword : protocol.notify notice = some word) :
    OnTheWay protocol (sent ++ [notice]) noticed (notices ++ [notice]) := by
  constructor
  · rw [h.sent, List.append_assoc]
  · intro other hother
    rcases List.mem_append.mp hother with hother | hother
    · exact h.words other hother
    · rw [List.mem_singleton.mp hother, hword]
      rfl

theorem OnTheWay.receive (h : OnTheWay protocol sent noticed (notice :: notices)) :
    OnTheWay protocol sent (noticed ++ [notice]) notices := by
  constructor
  · rw [h.sent, List.append_assoc]
    rfl
  · exact fun other hother ↦ h.words other (List.mem_cons_of_mem _ hother)

theorem OnTheWay.head (h : OnTheWay protocol sent noticed (notice :: notices)) :
    ∃ word, protocol.notify notice = some word :=
  Option.isSome_iff_exists.mp (h.words notice List.mem_cons_self)

/-- A delivery changes nothing that the invariant is about. -/
theorem Phase.of_contents (h : Phase protocol valid client served returned sent noticed connection)
    (hpending : connection'.pending = connection.pending) (hup : connection'.up.contents = connection.up.contents)
    (hdown : connection'.down.contents = connection.down.contents) :
    Phase protocol valid client served returned sent noticed connection' := by
  cases h with
  | idle notices h₁ h₂ h₃ => exact .idle notices (hpending.trans h₁) (hup.trans h₂) (hdown.trans h₃) ‹_› ‹_›
  | asked call word notices h₁ hvalid hrequest h₂ h₃ =>
    exact .asked call word notices (hpending.trans h₁) hvalid hrequest (hup.trans h₂) (hdown.trans h₃) ‹_› ‹_›
  | answered call word reply before behind h₁ h₂ h₃ =>
    exact .answered call word reply before behind (hpending.trans h₁) (hup.trans h₂) (hdown.trans h₃) ‹_› ‹_› ‹_›

/-- What is valid may change for a call that is under way. -/
theorem Phase.mono {valid' : Call → Prop} (h : Phase protocol valid client served returned sent noticed connection)
    (hvalid : ∀ call ∈ connection.pending, valid call → valid' call) :
    Phase protocol valid' client served returned sent noticed connection := by
  cases h with
  | idle notices h₁ h₂ h₃ => exact .idle notices h₁ h₂ h₃ ‹_› ‹_›
  | asked call word notices h₁ hcall hrequest h₂ h₃ =>
    exact .asked call word notices h₁ (hvalid call h₁ hcall) hrequest h₂ h₃ ‹_› ‹_›
  | answered call word reply before behind h₁ h₂ h₃ =>
    exact .answered call word reply before behind h₁ h₂ h₃ ‹_› ‹_› ‹_›

theorem Phase.call {call : Call} (h : Phase protocol valid client served returned sent noticed connection)
    (hidle : connection.pending = none) (hvalid : valid call) (hrequest : protocol.request call = some word) :
    Phase protocol valid client served returned sent noticed
      { connection with pending := some call, up := connection.up.put word } := by
  cases h with
  | idle notices _ hup hdown hnotices hserved =>
    refine .asked call word notices rfl hvalid hrequest ?_ hdown hnotices hserved
    rw [Stream.contents_put, hup, List.nil_append]
  | asked _ _ _ hpending => cases hidle.symm.trans hpending
  | answered _ _ _ _ _ hpending => cases hidle.symm.trans hpending

theorem Phase.notify (h : Phase protocol valid client served returned sent noticed connection)
    (hword : protocol.notify notice = some word) :
    Phase protocol valid client served returned (sent ++ [notice]) noticed
      { connection with down := connection.down.put word } := by
  cases h with
  | idle notices hpending hup hdown hnotices hserved =>
    refine .idle (notices ++ [notice]) hpending hup ?_ (hnotices.notify hword) hserved
    rw [Stream.contents_put, hdown, words_concat hword]
  | asked call request notices hpending hvalid hrequest hup hdown hnotices hserved =>
    refine .asked call request (notices ++ [notice]) hpending hvalid hrequest hup ?_ (hnotices.notify hword) hserved
    rw [Stream.contents_put, hdown, words_concat hword]
  | answered call answer reply before behind hpending hup hdown hreceive hnotices hserved =>
    refine .answered call answer reply before (behind ++ [notice]) hpending hup ?_ hreceive ?_ hserved
    · rw [Stream.contents_put, hdown, words_concat hword]
      simp only [List.append_assoc]
    · rw [← List.append_assoc]
      exact hnotices.notify hword

/-- The first notice on its way is what the client receives. -/
theorem Phase.receive_notice {rest : List σ}
    (hwhole : ∀ notice word, protocol.notify notice = some word →
      TakesWhole (protocol.receive client connection.pending) word (.inl notice))
    (hwaits : protocol.Waits) (h : Phase protocol valid client served returned sent noticed connection)
    (hreceive : protocol.receive client connection.pending connection.down.arrived = some (.inl notice, rest)) :
    Phase protocol valid client served returned sent (noticed ++ [notice])
      { connection with down := ⟨rest, connection.down.coming⟩ } := by
  -- A first notice is taken whole, and behind it the others are.
  have hfirst : ∀ (first : Notice) (others : List Notice) (more : List σ),
      (∃ word, protocol.notify first = some word) →
      connection.down.contents = protocol.words (first :: others) ++ more →
      notice = first ∧ (⟨rest, connection.down.coming⟩ : Stream σ).contents = protocol.words others ++ more := by
    rintro first others more ⟨word, hword⟩ hdown
    rw [words_cons hword, List.append_assoc] at hdown
    obtain ⟨hfound, hmore⟩ := (hwhole first word hword).of_arrived hdown hreceive
    exact ⟨Sum.inl.inj hfound, hmore⟩
  have hnothing : connection.down.contents ≠ [] := by
    intro hempty
    rw [Stream.arrived_eq_nil hempty, hwaits.receive] at hreceive
    cases hreceive
  cases h with
  | idle notices hpending hup hdown hnotices hserved =>
    cases notices with
    | nil => exact absurd hdown hnothing
    | cons first others =>
      obtain ⟨rfl, hrest⟩ := hfirst first others [] hnotices.head (hdown.trans (List.append_nil _).symm)
      exact .idle others hpending hup (hrest.trans (List.append_nil _)) hnotices.receive hserved
  | asked call word notices hpending hvalid hrequest hup hdown hnotices hserved =>
    cases notices with
    | nil => exact absurd hdown hnothing
    | cons first others =>
      obtain ⟨rfl, hrest⟩ := hfirst first others [] hnotices.head (hdown.trans (List.append_nil _).symm)
      exact .asked call word others hpending hvalid hrequest hup (hrest.trans (List.append_nil _)) hnotices.receive
        hserved
  | answered call word reply before behind hpending hup hdown hanswer hnotices hserved =>
    cases before with
    | nil =>
      rw [hpending] at hreceive
      cases (hanswer.of_arrived hdown hreceive).1
    | cons first others =>
      obtain ⟨rfl, hrest⟩ := hfirst first others _ hnotices.head hdown
      exact .answered call word reply others behind hpending hup hrest hanswer hnotices.receive hserved

/-- A reply is received for the call that is under way, when no notice is before it. -/
theorem Phase.receive_reply {rest : List σ} {found : Reply} {call : Call}
    (hwhole : ∀ notice word, protocol.notify notice = some word →
      TakesWhole (protocol.receive client connection.pending) word (.inl notice))
    (hwaits : protocol.Waits) (h : Phase protocol valid client served returned sent noticed connection)
    (hcall : connection.pending = some call)
    (hreceive : protocol.receive client connection.pending connection.down.arrived = some (.inr found, rest)) :
    Phase protocol valid client served (returned ++ [(call, found)]) sent noticed
      { connection with pending := none, down := ⟨rest, connection.down.coming⟩ } := by
  have hfirst : ∀ (first : Notice) (others : List Notice) (more : List σ),
      (∃ word, protocol.notify first = some word) →
      connection.down.contents ≠ protocol.words (first :: others) ++ more := by
    rintro first others more ⟨word, hword⟩ hdown
    rw [words_cons hword, List.append_assoc] at hdown
    cases ((hwhole first word hword).of_arrived hdown hreceive).1
  cases h with
  | idle notices hpending => cases hcall.symm.trans hpending
  | asked call' word notices hpending hvalid hrequest hup hdown hnotices hserved =>
    cases notices with
    | nil =>
      rw [Stream.arrived_eq_nil hdown, hwaits.receive] at hreceive
      cases hreceive
    | cons first others =>
      exact absurd (hdown.trans (List.append_nil _).symm) (hfirst first others [] hnotices.head)
  | answered call' word reply before behind hpending hup hdown hanswer hnotices hserved =>
    obtain rfl := Option.some.inj (hpending.symm.trans hcall)
    cases before with
    | nil =>
      rw [hpending] at hreceive
      obtain ⟨hfound, hrest⟩ := hanswer.of_arrived hdown hreceive
      obtain rfl := Sum.inr.inj hfound
      exact .idle behind rfl hup hrest hnotices hserved
    | cons first others => exact absurd hdown (hfirst first others _ hnotices.head)

end Runs

/-! ## The invariant -/

section Runs

variable [DecidableEq Client] {protocol : Protocol σ Client Store Call Reply Notice}
  {act : Store → Call → Store × Reply} {holds : Store → Prop} {valid : Store → Call → Prop} {initial : Store}
  {s s' : System σ Client Store Call Reply Notice} {client : Client}

structure System.Inv (protocol : Protocol σ Client Store Call Reply Notice) (act : Store → Call → Store × Reply)
    (holds : Store → Prop) (valid : Store → Call → Prop) (initial : Store)
    (s : System σ Client Store Call Reply Notice) : Prop where
  store : s.store = after act initial s.served
  holds : holds s.store
  phase : ∀ client, Phase protocol (valid s.store) client (replies act client initial s.served) (s.returned client)
    (s.sent client) (s.noticed client) (s.connections client)

/-- A step of one client leaves the others as they were. -/
theorem forall_client {P : Client → Prop} (client : Client) (hmine : P client)
    (hothers : ∀ other, other ≠ client → P other) (other : Client) : P other := by
  by_cases hother : other = client
  · exact hother ▸ hmine
  · exact hothers other hother

theorem System.Inv.deliver {connection : Connection σ Call} (h : s.Inv protocol act holds valid initial)
    (hpending : connection.pending = (s.connections client).pending)
    (hup : connection.up.contents = (s.connections client).up.contents)
    (hdown : connection.down.contents = (s.connections client).down.contents) :
    ({ s with connections := Function.update s.connections client connection } :
      System σ Client Store Call Reply Notice).Inv protocol act holds valid initial := by
  refine ⟨h.store, h.holds, forall_client client ?_ fun other hother ↦ ?_⟩
  · simp only [Function.update_self]
    exact (h.phase client).of_contents hpending hup hdown
  · simp only [Function.update_of_ne hother]
    exact h.phase other

/-- The client sends its call. -/
theorem System.Inv.call (h : s.Inv protocol act holds valid initial) {call : Call} (hvalid : valid s.store call)
    (hstep : s.step protocol (.call client call) = some s') : s'.Inv protocol act holds valid initial := by
  obtain ⟨hidle, hsend⟩ := Option.ite_none_right_eq_some.mp hstep
  rw [Option.isNone_iff_eq_none] at hidle
  obtain ⟨word, hrequest, rfl⟩ := Option.map_eq_some_iff.mp hsend
  refine ⟨h.store, h.holds, forall_client client ?_ fun other hother ↦ ?_⟩
  · simp only [Function.update_self]
    exact (h.phase client).call hidle hvalid hrequest
  · simp only [Function.update_of_ne hother]
    exact h.phase other

/-- The server takes a call. -/
theorem System.Inv.serve (himplements : Implements protocol act holds valid) (hwaits : protocol.Waits)
    (h : s.Inv protocol act holds valid initial) (hstep : s.step protocol (.serve client) = some s') :
    s'.Inv protocol act holds valid initial := by
  obtain ⟨⟨⟨store, reply⟩, rest⟩, hserve, rfl⟩ := Option.map_eq_some_iff.mp hstep
  have hnothing : (s.connections client).up.contents ≠ [] := by
    intro hempty
    rw [Stream.arrived_eq_nil hempty, hwaits.serve] at hserve
    cases hserve
  cases h.phase client with
  | idle _ _ hup => exact absurd hup hnothing
  | answered _ _ _ _ _ _ hup => exact absurd hup hnothing
  | asked call word notices hpending hvalid hrequest hup hdown hnotices hserved =>
    obtain ⟨answer, htaken, hreceive⟩ := himplements.serve client s.store call word h.holds hvalid hrequest
    obtain ⟨hfound, hrest⟩ := htaken.of_arrived (hup.trans (List.append_nil _).symm) hserve
    obtain ⟨rfl, rfl⟩ := Prod.mk.inj hfound
    have hlog : s.served ++ (s.connections client).pending.toList.map (.call client ·) =
        s.served ++ [.call client call] := by
      rw [hpending]
      rfl
    have hafter : (act s.store call).1 = after act initial (s.served ++ [.call client call]) := by
      rw [after_concat, ← h.store]
      rfl
    refine ⟨?_, himplements.keep s.store call h.holds hvalid, forall_client client ?_ fun other hother ↦ ?_⟩
    · simp only [hlog]
      exact hafter
    · simp only [hlog, Function.update_self, replies_concat, ← h.store]
      refine .answered call reply (act s.store call).2 notices [] hpending hrest ?_ hreceive ?_ ?_
      · rw [Stream.contents_put, hdown, words_nil, List.append_nil]
      · rw [List.append_nil]
        exact hnotices
      · rw [hserved]
        exact congrArg (s.returned client ++ ·) (if_pos rfl)
    · have hnone : Entry.reply act other s.store (.call client call) = [] := if_neg (Ne.symm hother)
      simp only [hlog, Function.update_of_ne hother, replies_concat, ← h.store, hnone, List.append_nil]
      apply (h.phase other).mono
      exact fun call' _ hcall' ↦ himplements.others s.store call' call h.holds hcall' hvalid

/-- The server sends a notice. -/
theorem System.Inv.notify (h : s.Inv protocol act holds valid initial) {notice : Notice}
    (hstep : s.step protocol (.notify client notice) = some s') : s'.Inv protocol act holds valid initial := by
  obtain ⟨word, hword, rfl⟩ := Option.map_eq_some_iff.mp hstep
  refine ⟨h.store, h.holds, forall_client client ?_ fun other hother ↦ ?_⟩
  · simp only [Function.update_self]
    exact (h.phase client).notify hword
  · simp only [Function.update_of_ne hother]
    exact h.phase other

/-- Others change the store. -/
theorem System.Inv.change (h : s.Inv protocol act holds valid initial) {change : Store → Store}
    (hholds : holds (change s.store))
    (hvalid : ∀ client, ∀ call ∈ (s.connections client).pending, valid (change s.store) call) :
    ({ s with store := change s.store, served := s.served ++ [.change change] } :
      System σ Client Store Call Reply Notice).Inv protocol act holds valid initial := by
  refine ⟨?_, hholds, fun client ↦ ?_⟩
  · simp only [after_concat, ← h.store]
    rfl
  · have hnone : Entry.reply act client (after act initial s.served) (.change change) = [] := rfl
    simp only [replies_concat, hnone, List.append_nil]
    exact (h.phase client).mono fun call hcall _ ↦ hvalid client call hcall

/-- The client takes a notice or its reply. -/
theorem System.Inv.receive (himplements : Implements protocol act holds valid) (hwaits : protocol.Waits)
    (h : s.Inv protocol act holds valid initial) (hstep : s.step protocol (.receive client) = some s') :
    s'.Inv protocol act holds valid initial := by
  obtain ⟨⟨found | found, rest⟩, hfound, hreturn⟩ := Option.bind_eq_some_iff.mp hstep
  · obtain rfl := Option.some.inj hreturn
    refine ⟨h.store, h.holds, forall_client client ?_ fun other hother ↦ ?_⟩
    · simp only [Function.update_self]
      exact (h.phase client).receive_notice (himplements.notice client _) hwaits hfound
    · simp only [Function.update_of_ne hother]
      exact h.phase other
  · obtain ⟨call, hcall, rfl⟩ := Option.map_eq_some_iff.mp hreturn
    refine ⟨h.store, h.holds, forall_client client ?_ fun other hother ↦ ?_⟩
    · simp only [Function.update_self]
      exact (h.phase client).receive_reply (himplements.notice client _) hwaits hcall hfound
    · simp only [Function.update_of_ne hother]
      exact h.phase other

/-! ## Every run is one of local calls -/

/-- No call is under way, and nothing is in the streams. -/
def System.Initial (initial : Store) (s : System σ Client Store Call Reply Notice) : Prop :=
  s.store = initial ∧ s.served = [] ∧ ∀ client, s.connections client = .idle ∧ s.returned client = [] ∧
    s.sent client = [] ∧ s.noticed client = []

/-- A change that leaves the store as it has to be and the calls that are under way valid. -/
def System.Harmless (holds : Store → Prop) (valid : Store → Call → Prop)
    (s : System σ Client Store Call Reply Notice) (change : Store → Store) : Prop :=
  holds (change s.store) ∧ ∀ client, ∀ call ∈ (s.connections client).pending, valid (change s.store) call

instance [Fintype Client] (holds : Store → Prop) [DecidablePred holds] (valid : Store → Call → Prop)
    [∀ store, DecidablePred (valid store)] (s : System σ Client Store Call Reply Notice) :
    DecidablePred (s.Harmless holds valid) :=
  fun _ ↦ inferInstanceAs (Decidable (_ ∧ ∀ _ : Client, ∀ _ ∈ _, _))

/-- Nobody else changes the store. -/
def System.Alone (_ : System σ Client Store Call Reply Notice) (_ : Store → Store) : Prop := False

instance (s : System σ Client Store Call Reply Notice) : DecidablePred s.Alone :=
  fun _ ↦ inferInstanceAs (Decidable False)

/-- The calls are valid, and others change the store as they may. -/
def System.Allowed (valid : Store → Call → Prop)
    (may : System σ Client Store Call Reply Notice → (Store → Store) → Prop)
    (s : System σ Client Store Call Reply Notice) : Event Client Store Call Notice → Prop
  | .call _ call => valid s.store call
  | .change change => may s change
  | _ => True

instance (valid : Store → Call → Prop) [∀ store, DecidablePred (valid store)]
    (may : System σ Client Store Call Reply Notice → (Store → Store) → Prop) [∀ s, DecidablePred (may s)]
    (s : System σ Client Store Call Reply Notice) :
    (event : Event Client Store Call Notice) → Decidable (s.Allowed valid may event)
  | .call _ call => inferInstanceAs (Decidable (valid s.store call))
  | .change change => inferInstanceAs (Decidable (may s change))
  | .deliverUp _ _ | .serve _ | .notify _ _ | .deliverDown _ _ | .receive _ => inferInstanceAs (Decidable True)

theorem System.Initial.inv (hholds : holds initial) (h : s.Initial initial) :
    s.Inv protocol act holds valid initial := by
  obtain ⟨hstore, hserved, hclients⟩ := h
  refine ⟨?_, hstore ▸ hholds, fun client ↦ ?_⟩
  · rw [hserved]
    exact hstore
  · obtain ⟨hidle, hreturned, hsent, hnoticed⟩ := hclients client
    rw [hidle, hreturned, hsent, hnoticed, hserved]
    exact .idle [] rfl rfl rfl ⟨rfl, fun _ hmem ↦ by cases hmem⟩ rfl

theorem System.Inv.step (himplements : Implements protocol act holds valid) (hwaits : protocol.Waits)
    {may : System σ Client Store Call Reply Notice → (Store → Store) → Prop}
    (hmay : ∀ change, may s change → s.Harmless holds valid change) (h : s.Inv protocol act holds valid initial)
    {event : Event Client Store Call Notice} (hallowed : s.Allowed valid may event)
    (hstep : s.step protocol event = some s') : s'.Inv protocol act holds valid initial := by
  cases event with
  | call client call => exact h.call hallowed hstep
  | deliverUp client count =>
    obtain rfl := Option.some.inj hstep
    exact h.deliver rfl (Stream.contents_deliver _ _) rfl
  | serve client => exact h.serve himplements hwaits hstep
  | notify client notice => exact h.notify hstep
  | change change =>
    obtain rfl := Option.some.inj hstep
    obtain ⟨hholds, hvalid⟩ := hmay change hallowed
    exact h.change hholds hvalid
  | deliverDown client count =>
    obtain rfl := Option.some.inj hstep
    exact h.deliver rfl rfl (Stream.contents_deliver _ _)
  | receive client => exact h.receive himplements hwaits hstep

/-- The store is what the calls that were served and the changes of others make of it, in the order of the log; what
returned to a client are the local replies to its calls, but for one that is under way; of a call under way the server
can take the whole request, or the whole reply is on its way; the client receives the notices in the order they are
sent; and without a call nothing but notices is on its way. -/
structure System.AsLocal (protocol : Protocol σ Client Store Call Reply Notice) (act : Store → Call → Store × Reply)
    (initial : Store) (s : System σ Client Store Call Reply Notice) : Prop where
  store : s.store = after act initial s.served
  returned : ∀ client, replies act client initial s.served = s.returned client ∨
    ∃ call reply, (s.connections client).pending = some call ∧
      replies act client initial s.served = s.returned client ++ [(call, reply)]
  goesOn : ∀ client call, (s.connections client).pending = some call →
    (∃ served, protocol.serve s.store (s.connections client).up.contents = some (served, [])) ∨
      ∃ before word behind reply,
        (s.connections client).down.contents = protocol.words before ++ (word ++ protocol.words behind) ∧
        protocol.receive client (some call) word = some (.inr reply, [])
  noticed : ∀ client, s.noticed client <+: s.sent client
  clean : ∀ client, (s.connections client).pending = none → (s.connections client).up.contents = [] ∧
    ∃ notices, s.sent client = s.noticed client ++ notices ∧
      (s.connections client).down.contents = protocol.words notices

theorem TakesWhole.exactly {α : Type*} {take : List σ → Option (α × List σ)} {word : List σ} {value : α}
    (h : TakesWhole take word value) : take word = some (value, []) := by
  have hwhole := h.whole []
  rwa [List.append_nil] at hwhole

theorem System.Inv.asLocal (himplements : Implements protocol act holds valid)
    (h : s.Inv protocol act holds valid initial) : s.AsLocal protocol act initial := by
  refine ⟨h.store, fun client ↦ ?_, fun client call hcall ↦ ?_, fun client ↦ ?_, fun client hnone ↦ ?_⟩
  · cases h.phase client with
    | idle _ _ _ _ _ hserved => exact Or.inl hserved
    | asked _ _ _ _ _ _ _ _ _ hserved => exact Or.inl hserved
    | answered call _ reply _ _ hpending _ _ _ _ hserved => exact Or.inr ⟨call, reply, hpending, hserved⟩
  · cases h.phase client with
    | idle _ hpending => cases hpending.symm.trans hcall
    | asked call' word _ hpending hvalid hrequest hup =>
      obtain ⟨reply, htaken, -⟩ := himplements.serve client s.store call' word h.holds hvalid hrequest
      rw [hup]
      exact Or.inl ⟨_, htaken.exactly⟩
    | answered call' word reply before behind hpending _ hdown hreceive =>
      obtain rfl := Option.some.inj (hpending.symm.trans hcall)
      exact Or.inr ⟨before, word, behind, reply, hdown, hreceive.exactly⟩
  · cases h.phase client with
    | idle notices _ _ _ hnotices => exact ⟨notices, hnotices.sent.symm⟩
    | asked _ _ notices _ _ _ _ _ hnotices => exact ⟨notices, hnotices.sent.symm⟩
    | answered _ _ _ before behind _ _ _ _ hnotices => exact ⟨before ++ behind, hnotices.sent.symm⟩
  · cases h.phase client with
    | idle notices _ hup hdown hnotices => exact ⟨hup, notices, hnotices.sent, hdown⟩
    | asked _ _ _ hpending => cases hnone.symm.trans hpending
    | answered _ _ _ _ _ hpending => cases hnone.symm.trans hpending

/-- In every run of valid calls of any clients, with any notices and harmless changes, however the messages arrive. -/
theorem asLocal_of_reachable {may : System σ Client Store Call Reply Notice → (Store → Store) → Prop}
    (himplements : Implements protocol act holds valid) (hwaits : protocol.Waits)
    (hmay : ∀ s change, may s change → s.Harmless holds valid change) (hholds : holds initial)
    (h : Reachable (System.step protocol) (System.Initial initial) (System.Allowed valid may) s) :
    s.AsLocal protocol act initial := by
  have hinv : s.Inv protocol act holds valid initial := by
    apply h.invariant (P := System.Inv protocol act holds valid initial)
    · exact fun _ hinitial ↦ hinitial.inv hholds
    · exact fun s _ _ hinv hallowed hstep ↦ hinv.step himplements hwaits (hmay s) hallowed hstep
  exact hinv.asLocal himplements

end Runs

end PlugAndPlay.Library.RemoteCalls
