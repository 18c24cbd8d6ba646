import Roster.Group.Fault
import Roster.GroupId

/-!
# The journal

Operations that are worth a line in the log record an event: what happened, from which its level and
its text follow. A logged value is a value with the events of its making, in order.
-/

namespace Roster

/-- How much an event matters. -/
inductive Level where
  | info
  | warn
  | debug
deriving DecidableEq

/-- Something that operations record. -/
inductive Event where
  | idRotated (old new : GroupId)
  | validationFailed (id : GroupId) (breach : Breach)
  | nameUnresolved (member : MemberId)
  | compared (old new : GroupId) (changes : Nat)
deriving DecidableEq

namespace Event

def level : Event → Level
  | idRotated .. => .info
  | validationFailed .. => .warn
  | nameUnresolved .. => .debug
  | compared .. => .debug

def text : Event → String
  | idRotated old new => "Rotating group id " ++ old.hex ++ " -> " ++ new.hex
  | validationFailed id breach => "Group " ++ id.hex ++ " failed validation: " ++ breach.message
  | nameUnresolved member => "No display name for " ++ member ++ ", using raw id"
  | compared old new changes =>
    "Group " ++ old.hex ++ " -> " ++ new.hex ++ ": " ++ toString changes ++ " change(s)"

end Event

/-- A value with the events that its making recorded. -/
structure Logged (α : Type) where
  value : α
  events : List Event

namespace Logged

instance : Monad Logged where
  pure value := ⟨value, []⟩
  bind first next :=
    let second := next first.value
    ⟨second.value, first.events ++ second.events⟩

def record (event : Event) : Logged Unit := ⟨(), [event]⟩

variable {α β : Type}

@[simp] theorem value_pure (a : α) : (pure a : Logged α).value = a := rfl

@[simp] theorem events_pure (a : α) : (pure a : Logged α).events = [] := rfl

@[simp] theorem value_bind (first : Logged α) (next : α → Logged β) :
    (first >>= next).value = (next first.value).value := rfl

@[simp] theorem events_bind (first : Logged α) (next : α → Logged β) :
    (first >>= next).events = first.events ++ (next first.value).events := rfl

@[simp] theorem value_map (f : α → β) (logged : Logged α) :
    (f <$> logged).value = f logged.value := rfl

@[simp] theorem events_map (f : α → β) (logged : Logged α) :
    (f <$> logged).events = logged.events := List.append_nil _

@[simp] theorem events_record (event : Event) : (record event).events = [event] := rfl

@[ext] theorem ext {left right : Logged α} (value : left.value = right.value)
    (events : left.events = right.events) : left = right := by
  cases left
  cases right
  simp_all

instance : LawfulMonad Logged :=
  LawfulMonad.mk' Logged
    (fun _ => ext rfl (List.append_nil _))
    (fun _ _ => rfl)
    (fun _ _ _ => ext rfl (List.append_assoc ..))

end Logged

end Roster
