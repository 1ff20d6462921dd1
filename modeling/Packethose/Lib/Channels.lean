set_option autoImplicit false

-- Buffered channels. A send on a closed channel panics, and so does a second
-- close; a closed channel still gives out what it holds.
namespace Channels

universe u

structure Channel (Item : Type u) where
  capacity : Nat
  items : List Item
  shut : Bool

inductive Sending where
  | sent
  | full
  | panics
deriving DecidableEq

inductive Receiving (Item : Type u) where
  | got (item : Item)
  | drained
  | blocks

variable {Item : Type u}

def Channel.make (capacity : Nat) : Channel Item := ⟨capacity, [], false⟩

def Channel.trySend (c : Channel Item) (item : Item) : Channel Item × Sending :=
  if c.shut then (c, .panics)
  else if c.items.length < c.capacity then ({ c with items := c.items ++ [item] }, .sent)
  else (c, .full)

def Channel.receive (c : Channel Item) : Channel Item × Receiving Item :=
  match c.items with
  | item :: rest => ({ c with items := rest }, .got item)
  | [] => (c, if c.shut then .drained else .blocks)

def Channel.close (c : Channel Item) : Option (Channel Item) := if c.shut then none else some { c with shut := true }

def Channel.Relayed (c : Channel Item) (sent received : List Item) : Prop := sent = received ++ c.items

theorem relayed_sent (c next : Channel Item) (item : Item) (taken : c.trySend item = (next, .sent)) (sent received : List Item)
    (relayed : c.Relayed sent received) :
    next.Relayed (sent ++ [item]) received ∧ c.shut = false ∧ next.shut = false := by
  unfold Channel.trySend at taken
  split at taken
  · cases (Prod.mk.inj taken).2
  · rename_i opened
    split at taken
    · obtain ⟨rfl, _⟩ := Prod.mk.inj taken
      have unshut : c.shut = false := by simpa using opened
      refine ⟨?_, unshut, unshut⟩
      rw [Channel.Relayed, relayed, List.append_assoc]
    · cases (Prod.mk.inj taken).2

theorem relayed_got (c next : Channel Item) (item : Item) (taken : c.receive = (next, .got item)) (sent received : List Item)
    (relayed : c.Relayed sent received) : next.Relayed sent (received ++ [item]) ∧ next.shut = c.shut := by
  unfold Channel.receive at taken
  split at taken
  · rename_i first rest held
    obtain ⟨rfl, same⟩ := Prod.mk.inj taken
    cases same
    refine ⟨?_, rfl⟩
    rw [Channel.Relayed, relayed, held, List.append_assoc]
    rfl
  · obtain ⟨_, same⟩ := Prod.mk.inj taken
    split at same <;> cases same

theorem receive_drained (c next : Channel Item) (taken : c.receive = (next, .drained)) : c.shut = true ∧ c.items = [] := by
  unfold Channel.receive at taken
  split at taken
  · cases (Prod.mk.inj taken).2
  · rename_i empty
    obtain ⟨_, same⟩ := Prod.mk.inj taken
    split at same
    · rename_i shut
      exact ⟨shut, empty⟩
    · cases same

theorem try_send_panics (c : Channel Item) (item : Item) (next : Channel Item) :
    c.trySend item = (next, .panics) ↔ c.shut = true ∧ next = c := by
  unfold Channel.trySend
  split
  · rename_i shut
    simp [shut, eq_comm]
  · rename_i opened
    split <;> simp [opened]

theorem close_open (c next : Channel Item) (taken : c.close = some next) : c.shut = false ∧ next = { c with shut := true } := by
  unfold Channel.close at taken
  split at taken
  · cases taken
  · rename_i opened
    exact ⟨by simpa using opened, (Option.some.inj taken).symm⟩

theorem try_send_fits (c next : Channel Item) (item : Item) (taken : c.trySend item = (next, .sent)) :
    next.items = c.items ++ [item] ∧ next.capacity = c.capacity ∧ next.items.length ≤ next.capacity := by
  have items : c.items ++ [item] = next.items := (relayed_sent c next item taken c.items [] rfl).1
  refine ⟨items.symm, ?_⟩
  unfold Channel.trySend at taken
  split at taken
  · cases (Prod.mk.inj taken).2
  · split at taken
    · rename_i room
      obtain ⟨rfl, _⟩ := Prod.mk.inj taken
      exact ⟨rfl, by rw [← items, List.length_append]; exact room⟩
    · cases (Prod.mk.inj taken).2

theorem receive_got (c next : Channel Item) (item : Item) (taken : c.receive = (next, .got item)) :
    c.items = item :: next.items ∧ next.capacity = c.capacity := by
  refine ⟨(relayed_got c next item taken c.items [] rfl).1, ?_⟩
  unfold Channel.receive at taken
  split at taken
  · obtain ⟨rfl, _⟩ := Prod.mk.inj taken
    rfl
  · obtain ⟨_, same⟩ := Prod.mk.inj taken
    split at same <;> cases same

end Channels
