import Mathlib.Data.List.Basic

/-!
A party and the messages on their way to it, oldest first. `settled` is the state
that the party reaches once it has handled them all; handling the next message does
not change it, and what is sent later is handled last.
-/

namespace MessageQueues

universe u v
variable {State : Type u} {Message : Type v} (handle : State → Message → State)

def settled (state : State) (queue : List Message) : State := queue.foldl handle state

theorem settled_cons (state : State) (message : Message) (rest : List Message) :
    settled handle state (message :: rest) = settled handle (handle state message) rest := rfl

theorem settled_append (state : State) (queue later : List Message) :
    settled handle state (queue ++ later) = settled handle (settled handle state queue) later :=
  List.foldl_append

variable {handle}

/-- What every message of a queue keeps, the queue keeps. -/
theorem settled_keeps (inv : State → Prop) {queue : List Message} {state : State}
    (keeps : ∀ message ∈ queue, ∀ before, inv before → inv (handle before message))
    (start : inv state) : inv (settled handle state queue) := by
  induction queue generalizing state with
  | nil => exact start
  | cons message rest ih =>
      apply ih
      · intro later member
        exact keeps later (List.mem_cons_of_mem message member)
      · exact keeps message (List.mem_cons_self ..) state start

/-- Where a message of the queue brings a property about and no message ends it,
it holds once the queue is handled. -/
theorem settled_gains (inv : State → Prop) {queue : List Message} {message : Message}
    (sent : message ∈ queue) (gains : ∀ before, inv (handle before message))
    (keeps : ∀ other ∈ queue, ∀ before, inv before → inv (handle before other)) (state : State) :
    inv (settled handle state queue) := by
  obtain ⟨before, after, rfl⟩ := List.append_of_mem sent
  rw [settled_append, settled_cons]
  apply settled_keeps inv
  · intro other member
    exact keeps other (List.mem_append_right before (List.mem_cons_of_mem message member))
  · exact gains _

end MessageQueues
