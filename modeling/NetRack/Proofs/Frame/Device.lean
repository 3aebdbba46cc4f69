import NetRack.Proofs.Command.Submode
import NetRack.Proofs.Propagation.Unique

/-!
# Commands and the frame of a device

No command that configures a device looks at what propagation derives.  Given to the frame of a device
it does to the frame what it does to the device.  Here is what the commands have in common: what the
tables of the frame give, what changes of its tables come to, and how the console of a frame moves.
-/

namespace NetRack

open Outcome

/-- An interface without the state that propagation derives. -/
def Interface.frame (i : Interface) : Interface := { i with operUp := false }

/-- An outcome with the frame of its device. -/
def Outcome.framed (o : Outcome) : Outcome := { o with device := o.device.frame }

/-! ## Tables -/

namespace Table

variable {κ ν μ : Type} [DecidableEq κ]

theorem mapValues_insert (t : Table κ ν) (k : κ) (v : ν) (f : κ → ν → μ) :
    (t.insert k v).mapValues f = (t.mapValues f).insert k (f k v) := by
  refine ext ?_ fun j => ?_
  · simp [keys_insert]
  · by_cases hj : j = k <;> simp [get?_insert, hj]

theorem contains_mapValues (t : Table κ ν) (k : κ) (f : κ → ν → μ) :
    (t.mapValues f).contains k = t.contains k := by
  simp [contains]

theorem mapValues_insertIfNew (t : Table κ ν) (k : κ) (v : ν) (f : κ → ν → μ) :
    (t.insertIfNew k v).mapValues f = (t.mapValues f).insertIfNew k (f k v) := by
  unfold insertIfNew
  rw [contains_mapValues, ← mapValues_insert]
  split <;> rfl

end Table

namespace Device

variable (d : Device)

theorem get?_frame (k : String) : d.frame.interfaces.get? k = (d.interfaces.get? k).map Interface.frame :=
  Table.get?_mapValues d.interfaces _ k

theorem contains_frame (k : String) : d.frame.interfaces.contains k = d.interfaces.contains k :=
  Table.contains_mapValues d.interfaces k _

theorem values_frame : d.frame.interfaces.values = d.interfaces.values.map Interface.frame := by
  simp [Table.values, frame, Interface.frame]

theorem sortedEntries_frame :
    d.frame.sortedEntries = List.map (fun e => (e.1, e.2.frame)) <$> d.sortedEntries :=
  sortedEntries_map rfl

theorem sortedInterfaces_frame : d.frame.sortedInterfaces = List.map Interface.frame <$> d.sortedInterfaces :=
  sortedInterfaces_map rfl

variable {d}

theorem frame_modifyInterface {key : String} {f g : Interface → Interface} (h : ∀ i, (f i).frame = g i.frame) :
    (d.modifyInterface key f).frame = d.frame.modifyInterface key g := by
  have table : (d.interfaces.modify key f).mapValues (fun _ => Interface.frame) =
      (d.interfaces.mapValues fun _ => Interface.frame).modify key g := by
    unfold Table.modify
    rw [Table.mapValues_mapValues, Table.mapValues_mapValues]
    refine Table.mapValues_congr fun k i _ => ?_
    split
    · exact h i
    · rfl
  show ({ d with interfaces := d.interfaces.modify key f } : Device).frame = _
  unfold frame modifyInterface
  exact congrArg (fun x => { d.frame with interfaces := x }) table

/-! ## The console -/

theorem exitMode_frame : d.frame.exitMode = (fun p => (p.1.frame, p.2)) <$> d.exitMode := by
  unfold exitMode
  show (if d.mode.isConfig then d.modeStack.pop >>= _ else _) = _
  split
  · cases d.modeStack.pop <;> rfl
  · rfl

theorem enterMode_frame (mode : Mode) (select : EditContext → EditContext) :
    d.frame.enterMode mode select = frame <$> d.enterMode mode select := by
  have deeper (x : Device) : (x.frame.modeStack.push x.frame.mode >>= fun modeStack =>
      pure { x.frame with mode, modeStack, context := select x.frame.context }) =
      frame <$> (x.modeStack.push x.mode >>= fun modeStack =>
        pure { x with mode, modeStack, context := select x.context }) := by
    show (x.modeStack.push x.mode >>= fun _ => _) = _
    cases x.modeStack.push x.mode <;> rfl
  have same : d.frame.mode = d.mode := rfl
  unfold enterMode
  rw [exitMode_frame, same]
  by_cases hs : d.mode.isSubmode = true
  · simp only [if_pos hs]
    cases d.exitMode with
    | error f => rfl
    | ok p => exact deeper p.1
  · simp only [if_neg hs]
    exact deeper d

/-! ## Addresses -/

/-- Whether an address belongs to a device does not depend on what works, if nothing has to work. -/
theorem isAddressed_frame (ip : String) : d.frame.isAddressed ip false = d.isAddressed ip false := by
  have owner : d.frame.ownsIp ip false = d.ownsIp ip false := by
    unfold ownsIp
    rw [sortedInterfaces_frame]
    cases d.sortedInterfaces with
    | error f => rfl
    | ok is =>
      simp only [map_ok, ok_bind, List.find?_map, Option.map_map, Bool.not_false, Bool.or_true]
      rfl
  unfold isAddressed
  rw [owner]

end Device

/-! ## Commands step by step -/

section Steps

variable {α β : Type}

theorem liftM_map (k : α → β) (x : Except Fault α) :
    (liftM (k <$> x) : Except Failure β) = k <$> (liftM x : Except Failure α) := by
  cases x <;> rfl

/-- If what comes first of the frame is the frame of what comes first, and so it is with the rest, so it is
with the whole. -/
theorem framed_bind {x : Except Failure α} {y : Except Failure β} {k : α → β} {f : α → Except Failure Outcome}
    {g : β → Except Failure Outcome} (hx : y = k <$> x) (h : ∀ a, g (k a) = framed <$> f a) :
    (y >>= g) = framed <$> (x >>= f) := by
  rw [hx]
  cases x with
  | error e => rfl
  | ok a => exact h a

/-- What comes first does not see a difference. -/
theorem framed_same {x y : Except Failure α} {f g : α → Except Failure Outcome} (hx : y = x)
    (h : ∀ a, g a = framed <$> f a) : (y >>= g) = framed <$> (x >>= f) :=
  framed_bind (hx.trans (id_map x).symm) h

/-- What comes first does not look at the device. -/
theorem framed_step {x : Except Failure α} {f g : α → Except Failure Outcome} (h : ∀ a, g a = framed <$> f a) :
    (x >>= g) = framed <$> (x >>= f) := framed_same rfl h

end Steps

/-- Entering a mode comes last. -/
theorem framed_enterMode (d : Device) (mode : Mode) (select : EditContext → EditContext) {f : Device → Outcome}
    (h : ∀ d, f d.frame = (f d).framed) :
    (liftM (d.frame.enterMode mode select) >>= fun d => pure (f d) : Except Failure Outcome) =
      framed <$> (liftM (d.enterMode mode select) >>= fun d => pure (f d)) := by
  rw [Device.enterMode_frame]
  refine framed_bind (liftM_map _ _) fun d' => ?_
  rw [h]
  rfl

end NetRack
