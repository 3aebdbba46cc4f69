import NetRack.Proofs.Snapshot.Codec

/-!
# Laws of records

The fields of a record are written under distinct names, so each is found again under its own.  A
record is read back if its fields are, and what is known of the fields that are read is known of the
record.  In a snapshot everything comes back but numbers with too many digits as the keys of two
tables: the VLANs of a device, and those that have a priority for spanning trees.
-/

namespace NetRack

/-! ## Fields by name -/

namespace Json

theorem lastValue?_of_mem {κ : Type} [DecidableEq κ] {key : κ} {v : Json} {fields : List (κ × Json)}
    (names : (fields.map Prod.fst).Nodup) (h : (key, v) ∈ fields) : lastValue? key fields = some v := by
  have back : (fields.reverse.map Prod.fst).Nodup := by
    rw [List.map_reverse]
    exact List.nodup_reverse.2 names
  exact (Table.find_entry back).2 (List.mem_reverse.2 h)

end Json

/-! ## One field at a time -/

namespace Record

variable {ρ σ τ : Type}

/-- The laws of the first fields of a record of type `ρ`, from which a `σ` is built.  `value` is what is
built from the fields of a record, and `given P` says that `P` holds of what is built from any fields
that are as they can be read. -/
class Lawful (r : Record ρ σ) (names : outParam (List String)) (good : outParam (ρ → Prop))
    (value : outParam (ρ → σ)) (given : outParam ((σ → Prop) → Prop)) (depth : outParam Nat) : Prop where
  names_fields : ∀ x, (r.fields x).map Prod.fst = names
  read_fields : ∀ {x : ρ} {v : Json}, good x → (∀ f ∈ r.fields x, v.field? f.1 = some f.2) →
    r.read v = .ok (value x)
  of_read : ∀ {P : σ → Prop}, given P → ∀ {v : Json} {s : σ}, r.read v = .ok s → P s
  fits : ∀ x, ∀ f ∈ r.fields x, f.2.Fits depth

@[simp] theorem base_of (base : ρ) (build : σ) : (of base build).base = base := rfl

@[simp] theorem base_required [Codec τ] (r : Record ρ (τ → σ)) (name : String) (get : ρ → τ) :
    (r.required name get).base = r.base := rfl

@[simp] theorem base_optional [Codec τ] (r : Record ρ (τ → σ)) (name : String) (get : ρ → τ) :
    (r.optional name get).base = r.base := rfl

instance (base : ρ) (build : σ) :
    Lawful (of base build) [] (fun _ => True) (fun _ => build) (fun P => P build) 0 where
  names_fields _ := rfl
  read_fields _ _ := rfl
  of_read hP _ _ h := Except.ok.inj h ▸ hP
  fits _ _ h := by cases h

section Field

variable [Codec τ] {r : Record ρ (τ → σ)} {names : List String} {good : ρ → Prop} {value : ρ → τ → σ}
  {given : ((τ → σ) → Prop) → Prop} {depth depth' : Nat} {fine : τ → Prop} {name : String} {get : ρ → τ}

/-- The laws of a record with one more field. -/
theorem lawful_field [h : Lawful r names good value given depth] [hτ : Codec.Lawful τ fine depth']
    (absent : Checked τ) : Lawful (r.field name get absent) (names ++ [name]) (fun x => good x ∧ fine (get x))
      (fun x => value x (get x)) (fun P => given fun s => ∀ t, fine t ∨ absent = .ok t → P (s t))
      (max depth depth') where
  names_fields x := by
    show (r.fields x ++ [_]).map Prod.fst = _
    rw [List.map_append, h.names_fields]
    rfl
  read_fields {x v} hx hv := by
    change ∀ f ∈ r.fields x ++ [(name, Codec.write (get x))], _ at hv
    have first : r.read v = .ok (value x) :=
      h.read_fields hx.1 fun f hf => hv f (List.mem_append_left _ hf)
    have last : readField name absent v = .ok (get x) := by
      rw [readField, hv (name, Codec.write (get x)) (by simp), Checked.within_eq_ok]
      exact hτ.read_write hx.2
    exact map_eq_ok.2 ⟨(value x, get x), Checked.both_eq_ok.2 ⟨first, last⟩, rfl⟩
  of_read {P} hP {v s} hs := by
    obtain ⟨⟨build, t⟩, hp, rfl⟩ := map_eq_ok.1 hs
    obtain ⟨hbuild, ht⟩ := Checked.both_eq_ok.1 hp
    refine h.of_read hP hbuild t ?_
    rw [readField, Checked.within_eq_ok] at ht
    split at ht
    · exact .inl (hτ.good_of_read ht)
    · exact .inr ht
  fits x f hf := by
    rcases List.mem_append.1 hf with hf | hf
    · exact (h.fits x f hf).mono (Nat.le_max_left _ _)
    · rw [List.mem_singleton.1 hf]
      exact (hτ.fits (get x)).mono (Nat.le_max_right _ _)

instance [Lawful r names good value given depth] [Codec.Lawful τ fine depth'] :
    Lawful (r.required name get) (names ++ [name]) (fun x => good x ∧ fine (get x))
      (fun x => value x (get x))
      (fun P => given fun s => ∀ t, fine t ∨ (Checked.misfit : Checked τ) = .ok t → P (s t))
      (max depth depth') := lawful_field _

instance [Lawful r names good value given depth] [Codec.Lawful τ fine depth'] :
    Lawful (r.optional name get) (names ++ [name]) (fun x => good x ∧ fine (get x))
      (fun x => value x (get x))
      (fun P => given fun s => ∀ t, fine t ∨ (.ok (get r.base) : Checked τ) = .ok t → P (s t))
      (max depth depth') := lawful_field _

end Field

instance (r : Record ρ ρ) : @Codec.Present ρ r.codec := @Codec.Present.mk ρ r.codec fun _ h => by cases h

/-- A codec of a record is lawful if its fields have distinct names, make up the record and come back. -/
theorem lawful_codec (r : Record ρ ρ) {names : List String} {good fine : ρ → Prop} {value : ρ → ρ}
    {given : (ρ → Prop) → Prop} {depth : Nat} [h : Lawful r names good value given depth]
    (distinct : names.Nodup := by decide) (complete : ∀ x, value x = x := by exact fun _ => rfl)
    (kept : ∀ x, fine x → good x := by simp) (ensured : given fine := by simp) : @Codec.Lawful ρ r.codec fine (depth + 1) :=
  @Codec.Lawful.mk ρ r.codec fine (depth + 1)
    (fun {x} hx => by
      show r.read (.object (r.fields x)) = _
      rw [h.read_fields (kept x hx) fun f hf => ?_, complete]
      exact Json.lastValue?_of_mem (by rw [h.names_fields]; exact distinct) hf)
    (fun {v x} hx => by
      cases v
      case object fields => exact h.of_read ensured hx
      all_goals cases hx)
    fun x => .object (h.fits x) (by rw [h.names_fields]; exact distinct)

end Record

/-! ## The records of a snapshot -/

instance : Codec.Lawful PortSecurity (fun _ => True) 2 := Record.lawful_codec _
instance : Codec.Lawful Interface (fun _ => True) 3 := Record.lawful_codec _
instance : Codec.Lawful Route (fun _ => True) 1 := Record.lawful_codec _
instance : Codec.Lawful AclRule (fun _ => True) 1 := Record.lawful_codec _
instance : Codec.Lawful AccessList (fun _ => True) 3 := Record.lawful_codec _
instance : Codec.Lawful OspfNetwork (fun _ => True) 1 := Record.lawful_codec _
instance : Codec.Lawful OspfConfig (fun _ => True) 3 := Record.lawful_codec _
instance : Codec.Lawful OspfNeighbor (fun _ => True) 1 := Record.lawful_codec _
instance : Codec.Lawful RipConfig (fun _ => True) 2 := Record.lawful_codec _
instance : Codec.Lawful LineConfig (fun _ => True) 2 := Record.lawful_codec _
instance : Codec.Lawful DhcpPool (fun _ => True) 2 := Record.lawful_codec _
instance : Codec.Lawful NatStatic (fun _ => True) 1 := Record.lawful_codec _
instance : Codec.Lawful NatPool (fun _ => True) 1 := Record.lawful_codec _
instance : Codec.Lawful NatDynamic (fun _ => True) 1 := Record.lawful_codec _
instance : Codec.Lawful NatConfig (fun _ => True) 3 := Record.lawful_codec _
instance : Codec.Lawful ModeStack (fun _ => True) 2 := Record.lawful_codec _
instance : Codec.Lawful EditContext (fun _ => True) 1 := Record.lawful_codec _
instance : Codec.Lawful LinkEnd (fun _ => True) 1 := Record.lawful_codec _
instance : Codec.Lawful Link (fun _ => True) 2 := Record.lawful_codec _

/-! ### Numbers as keys -/

/-- Whether every VLAN with a priority has a number of few enough digits. -/
def StpConfig.HasBriefKeys (c : StpConfig) : Prop := ∀ vlan ∈ c.vlanPriority.keys, Text.isBrief vlan = true

/-- Whether every VLAN that the device knows or gives a priority has a number of few enough digits. -/
structure Device.HasBriefKeys (d : Device) : Prop where
  vlans : ∀ vlan ∈ d.vlans.keys, Text.isBrief vlan = true
  stp : d.stp.HasBriefKeys

/-- Whether every VLAN in the tables of a lab has a number of few enough digits. -/
def Topology.HasBriefKeys (t : Topology) : Prop := ∀ d ∈ t.devices.values, d.HasBriefKeys

theorem StpConfig.hasBriefKeys_default : ({} : StpConfig).HasBriefKeys := fun _ h => by cases h

instance : Codec.Lawful StpConfig StpConfig.HasBriefKeys 2 :=
  Record.lawful_codec _ (by decide) (fun _ => rfl) (fun _ h => by simpa [StpConfig.HasBriefKeys] using h) <| by
    intro mode _ priority read
    rcases read with brief | default
    · exact brief.1
    · cases default
      exact StpConfig.hasBriefKeys_default

instance : Codec.Lawful Device Device.HasBriefKeys 5 :=
  Record.lawful_codec _ (by decide) (fun _ => rfl) (fun _ h => by simpa using ⟨h.vlans, h.stp⟩) <| by
    simp only [implies_true, and_self, true_or, forall_const]
    intro _ _ _ _ _ _ _ vlans readVlans _ _ _ _ _ _ _ _ _ stp readStp
    intros
    refine ⟨?_, ?_⟩
    · rcases readVlans with brief | default
      · exact brief.1
      · cases default
        exact fun _ h => by cases h
    · rcases readStp with brief | default
      · exact brief
      · cases default
        exact StpConfig.hasBriefKeys_default

instance : Codec.Lawful Topology Topology.HasBriefKeys 7 :=
  Record.lawful_codec _ (by decide) (fun _ => rfl) (fun _ h => by simpa [Topology.HasBriefKeys] using h) <| by
    simp only [implies_true, true_or, forall_const]
    intro devices read _ _
    rcases read with brief | default
    · exact brief
    · cases default
      exact fun _ h => by cases h

end NetRack
