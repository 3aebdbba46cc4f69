import NetRack.Proofs.Show
import NetRack.Proofs.Trunk.Carried
import Mathlib.Data.Finset.Sort

/-!
# Trunks that are told, printed and told again

What VLANs a trunk carries is told to it in lines, and is printed in a line that tells it to any other trunk.
-/

namespace NetRack

open Console

/-! ## The line that is printed -/

namespace Show

/-- How the line begins that lists VLANs for a trunk. -/
def listMark : String := " switchport trunk allowed vlan "

/-- Whether a line lists VLANs for a trunk. -/
def ListsVlans (line : String) : Prop := listMark.toList <+: line.toList

instance (line : String) : Decidable (ListsVlans line) :=
  inferInstanceAs (Decidable (listMark.toList <+: line.toList))

/-- The line that lists some VLANs for a trunk. -/
def listLine (s : VlanSet) : String := listMark ++ allowedVlans s

/-- How the other lines begin that set an interface up. -/
def otherMarks : List String :=
  ["interface ", " description ", " encapsulation dot1Q ", " switchport trunk native vlan ", " switchport mode ",
    " switchport port-security", " spanning-tree ", " channel-group ", " ip address ", " no ip address",
    " ip access-group ", " ip nat ", " duplex auto", " speed auto", " shutdown", "!"]

/-- Whether a line begins like one that lists no VLANs. -/
def BeginsOtherwise (line : String) : Prop := ∃ mark ∈ otherMarks, mark.toList <+: line.toList

variable {d : Device} {i : Interface} {key mark rest line : String} {lines : List String} {s : VlanSet}

theorem listsVlans_listLine (s : VlanSet) : ListsVlans (listLine s) := by
  unfold ListsVlans listLine
  rw [String.toList_append]
  exact List.prefix_append ..

theorem BeginsOtherwise.not_listsVlans (h : BeginsOtherwise line) : ¬ListsVlans line := by
  have apart : ∀ mark ∈ otherMarks, ¬mark.toList <+: listMark.toList ∧ ¬listMark.toList <+: mark.toList := by
    decide +kernel
  obtain ⟨mark, mem, begins⟩ := h
  intro lists
  rcases List.prefix_or_prefix_of_prefix begins lists with shorter | longer
  · exact (apart mark mem).1 shorter
  · exact (apart mark mem).2 longer

theorem beginsOtherwise_append (mem : mark ∈ otherMarks) : BeginsOtherwise (mark ++ rest) := by
  refine ⟨mark, mem, ?_⟩
  rw [String.toList_append]
  exact List.prefix_append ..

theorem beginsOtherwise_self (mem : mark ∈ otherMarks) : BeginsOtherwise mark := ⟨mark, mem, List.prefix_rfl⟩

theorem lineWith_otherwise {value : Option String} {after : String} (mem : mark ∈ otherMarks) :
    ∀ line ∈ lineWith mark value after, BeginsOtherwise line := by
  unfold lineWith
  split
  · rw [List.forall_mem_singleton, String.append_assoc]
    exact beginsOtherwise_append mem
  · exact List.forall_mem_nil _

theorem linesIf_otherwise {condition : Bool} (h : ∀ line ∈ lines, BeginsOtherwise line) :
    ∀ line ∈ Text.linesIf condition lines, BeginsOtherwise line := by
  unfold Text.linesIf
  split
  · exact h
  · exact List.forall_mem_nil _

theorem portSecurityCommands_otherwise (ps : PortSecurity) :
    ∀ line ∈ portSecurityCommands ps, BeginsOtherwise line := by
  have security (rest : String) : BeginsOtherwise (" switchport port-security" ++ rest) :=
    beginsOtherwise_append (by decide)
  unfold portSecurityCommands
  simp only [List.forall_mem_append, List.forall_mem_map]
  refine ⟨⟨⟨⟨?_, ?_⟩, ?_⟩, ?_⟩, ?_⟩
  · exact linesIf_otherwise (List.forall_mem_singleton.2 (beginsOtherwise_self (by decide)))
  · exact linesIf_otherwise (List.forall_mem_singleton.2 (security (" maximum " ++ _)))
  · exact linesIf_otherwise (List.forall_mem_singleton.2 (security (" violation " ++ _)))
  · exact linesIf_otherwise (List.forall_mem_singleton.2 (security " mac-address sticky"))
  · exact fun station _ => security (" mac-address " ++ station)

theorem addressCommand_otherwise (i : Interface) (kind : PortKind) :
    ∀ line ∈ addressCommand i kind, BeginsOtherwise line := by
  unfold addressCommand
  split
  · rw [List.forall_mem_singleton, String.append_assoc, String.append_assoc]
    exact beginsOtherwise_append (by decide)
  · exact linesIf_otherwise (List.forall_mem_singleton.2 (beginsOtherwise_self (by decide)))

theorem filter_of_otherwise (h : ∀ line ∈ lines, BeginsOtherwise line) : lines.filter (ListsVlans ·) = [] :=
  List.filter_eq_nil_iff.2 fun line mem => by simpa using (h line mem).not_listsVlans

section Filter

variable {others : List String} (h : ∀ line ∈ others, BeginsOtherwise line)

include h

theorem filter_append_others : (lines ++ others).filter (ListsVlans ·) = lines.filter (ListsVlans ·) := by
  rw [List.filter_append, filter_of_otherwise h, List.append_nil]

theorem filter_others_append : (others ++ lines).filter (ListsVlans ·) = lines.filter (ListsVlans ·) := by
  rw [List.filter_append, filter_of_otherwise h, List.nil_append]

end Filter

/-- Of the lines that set a switch port up, a trunk, one lists VLANs if some are listed for the trunk. -/
theorem filter_switchportCommands (trunk : i.mode.holds .trunk = true) :
    (switchportCommands i).filter (ListsVlans ·) = (i.trunkVlans.map listLine).toList := by
  unfold switchportCommands
  rw [if_pos trunk, filter_append_others, filter_append_others, filter_append_others, filter_others_append]
  · cases i.trunkVlans with
    | none => rfl
    | some s => exact List.filter_eq_self.2 (List.forall_mem_singleton.2 (decide_eq_true (listsVlans_listLine s)))
  · exact linesIf_otherwise (List.forall_mem_singleton.2 (beginsOtherwise_append (by decide)))
  · exact List.forall_mem_singleton.2 ⟨" switchport mode ", by decide, by decide⟩
  · exact portSecurityCommands_otherwise _
  · exact linesIf_otherwise (List.forall_mem_singleton.2 ⟨" spanning-tree ", by decide, by decide⟩)

/-- Of the lines that set a trunk up, one lists VLANs if some are listed for the trunk. -/
theorem filter_interfaceCommands (switch : d.isA .switch = true) (trunk : i.mode.holds .trunk = true)
    (printed : interfaceCommands d i = .ok lines) :
    lines.filter (ListsVlans ·) = (i.trunkVlans.map listLine).toList := by
  obtain ⟨kind, -, printed⟩ := bind_eq_ok.1 printed
  have port : (d.isA .switch && i.isSwitchport) = true := by simp [switch, Interface.isSwitchport, trunk]
  rw [if_pos port] at printed
  cases printed
  rw [filter_append_others, filter_append_others, filter_append_others, filter_append_others, filter_append_others,
    filter_append_others, filter_append_others, filter_append_others, filter_others_append]
  · exact filter_switchportCommands trunk
  · simp only [List.forall_mem_append]
    refine ⟨⟨?_, lineWith_otherwise (by decide)⟩, ?_⟩
    · exact List.forall_mem_singleton.2 (beginsOtherwise_append (by decide))
    · split
      · exact List.forall_mem_singleton.2 (beginsOtherwise_append (by decide))
      · exact List.forall_mem_nil _
  · split
    · rw [List.forall_mem_singleton, String.append_assoc, String.append_assoc]
      exact beginsOtherwise_append (by decide)
    · exact List.forall_mem_nil _
  · exact addressCommand_otherwise _ _
  · exact lineWith_otherwise (by decide)
  · exact lineWith_otherwise (by decide)
  · exact lineWith_otherwise (by decide)
  · exact linesIf_otherwise (by simpa using ⟨beginsOtherwise_self (by decide), beginsOtherwise_self (by decide)⟩)
  · exact linesIf_otherwise (List.forall_mem_singleton.2 (beginsOtherwise_self (by decide)))
  · exact List.forall_mem_singleton.2 (beginsOtherwise_self (by decide))

theorem mem_and_listsVlans (switch : d.isA .switch = true) (trunk : i.mode.holds .trunk = true)
    (printed : interfaceCommands d i = .ok lines) :
    line ∈ lines ∧ ListsVlans line ↔ ∃ s, i.trunkVlans = some s ∧ listLine s = line := by
  have mem : line ∈ lines.filter (ListsVlans ·) ↔ line ∈ (i.trunkVlans.map listLine).toList := by
    rw [filter_interfaceCommands switch trunk printed]
  simpa using mem

theorem exists_listsVlans_iff (switch : d.isA .switch = true) (trunk : i.mode.holds .trunk = true)
    (printed : interfaceCommands d i = .ok lines) : (∃ line ∈ lines, ListsVlans line) ↔ i.trunkVlans ≠ none := by
  rw [Option.ne_none_iff_exists']
  constructor
  · rintro ⟨line, there⟩
    obtain ⟨s, listed, -⟩ := (mem_and_listsVlans switch trunk printed).1 there
    exact ⟨s, listed⟩
  · rintro ⟨s, listed⟩
    exact ⟨_, (mem_and_listsVlans switch trunk printed).2 ⟨s, listed, rfl⟩⟩

/-- The lines that set an interface up are some of those that set the device up. -/
theorem infix_configCommands (sound : d.Sound) (hi : d.interfaces.get? i.name = some i)
    (printed : interfaceCommands d i = .ok lines) {all : List String} (config : configCommands d = .ok all) :
    lines <:+: all := by
  obtain ⟨earlier, later, split⟩ := List.append_of_mem ((Device.mem_ordered_values sound.interfaces).2 hi)
  unfold configCommands at config
  rw [Device.sortedInterfaces_of_table sound.interfaces, ok_bind, split] at config
  obtain ⟨sections, each, config⟩ := bind_eq_ok.1 config
  rw [List.mapM_append, List.mapM_cons, printed, ok_bind] at each
  obtain ⟨first, -, each⟩ := bind_eq_ok.1 each
  obtain ⟨_, rest, each⟩ := bind_eq_ok.1 each
  obtain ⟨last, -, heq⟩ := bind_eq_ok.1 rest
  cases heq
  cases each
  obtain ⟨lists, -, config⟩ := bind_eq_ok.1 config
  cases config
  refine ⟨headSection d ++ first.flatten, last.flatten ++ routingSection d ++ lists ++ tailSection d, ?_⟩
  simp only [List.flatten_append, List.flatten_cons, List.append_assoc]

/-- The lines that set an interface up are some of those of the running configuration. -/
theorem infix_runningConfig (sound : d.Sound) (hi : d.interfaces.get? i.name = some i)
    (printed : interfaceCommands d i = .ok lines) {text : String} (run : runningConfig d = .ok text) :
    ∃ all, text = Text.unlines all ∧ lines <:+: all := by
  obtain ⟨body, config, run⟩ := bind_eq_ok.1 run
  cases run
  exact ⟨_, rfl, (infix_configCommands sound hi printed config).trans (List.suffix_append _ body).isInfix⟩

end Show

/-! ## Entering the line -/

namespace Show

variable {s : VlanSet}

theorem words_listMark {word : String} (unbroken : Text.Unbroken word.toList) :
    (Text.words (listMark ++ word)).map (·.text) = ["switchport", "trunk", "allowed", "vlan", word] := by
  have line : listMark ++ word = " " ++ " ".intercalate ["switchport", "trunk", "allowed", "vlan", word] := by
    simp only [String.intercalate_cons_cons, String.intercalate_singleton, ← String.append_assoc]
    rfl
  have known : ∀ s ∈ ["switchport", "trunk", "allowed", "vlan"], Text.Unbroken s.toList := by decide
  rw [line]
  exact words_indented (List.forall_mem_append.2 ⟨known, List.forall_mem_singleton.2 unbroken⟩)

/-- The line that lists VLANs for a trunk is that of a change to them. -/
theorem listLine_worded (vlans : ∀ v ∈ s.ids, IsVlan v) :
    ∃ c : TrunkChange, c.WordedBy (listLine s) ∧ ∀ now, c.apply now = s := by
  have worded {c : TrunkChange} {word : String} (unbroken : Text.Unbroken word.toList) (spelled : c.SpelledBy [word]) :
      c.WordedBy (listMark ++ word) :=
    .intro (words_listMark unbroken) (.of_lower (by decide +kernel) (by decide)) (.of_lower (by decide) (by decide))
      (.of_lower (by decide) (by decide)) (.of_lower (by decide) (by decide)) spelled
  unfold listLine allowedVlans
  by_cases empty : s.ids = []
  · rw [if_pos (by simp [empty])]
    exact ⟨.none, worded (by decide) (.word rfl rfl (.of_lower (by decide) (by decide))),
      fun _ => VlanSet.ext_ids empty.symm⟩
  · obtain ⟨read, marked⟩ := VlanSet.readVlanSet_text empty vlans
    rw [if_neg (by simpa using empty)]
    have passed : Passes changeWords s.text := passes_of_mark (by decide) marked.mark
    have lists := Argument.readVlanSet_eq_ok_iff.1 read
    exact ⟨.set s.ids, worded marked.unbroken (.list rfl rfl passed lists),
      fun _ => VlanSet.ext_mem fun v => VlanSet.mem_ofList⟩

end Show

namespace Topology

/-- A line is entered for any trunk that a console configures, and lists some VLANs, or none, for it. -/
def ListsForTrunks (t : Topology) (explainer : Option Explainer) (line : String) (listed : Option VlanSet) : Prop :=
  ∀ device d key i, t.device device = .ok d → d.ConfiguresTrunk key i →
    LeadTo explainer device t [line] fun d' => ∃ i', d'.ConfiguresTrunk key i' ∧ i'.trunkVlans = listed

/-- Trunks of a lab are as they are told, and as they are printed for another one. -/
structure TrunksAsTold (t t' : Topology) (explainer : Option Explainer) : Prop where
  /-- Every set of VLANs is written as its maximal runs, and what is written is read as the VLANs in order. -/
  lists : ∀ (vlans : Finset Int) (order : List Int), vlans.Nonempty → (∀ v ∈ vlans, IsVlan v) → order.Nodup →
    (∀ v, v ∈ order ↔ v ∈ vlans) →
    (∀ low high device, Argument.read .vlanList low high device (vlanListText order) = .ok (.vlans vlans.sort)) ∧
      ∃ runs, AreRuns runs vlans.sort ∧
        vlanListText order = String.intercalate "," (runs.map fun run => runText run.1 run.2)
  /-- Lines ask for changes of a trunk by their words. -/
  asked : ∀ device d key i line c, t.device device = .ok d → d.ConfiguresTrunk key i →
    (Asks d line (.interface (.trunkAllowed c)) ↔ c.WordedBy line)
  /-- A trunk carries what the changes that are told come to, and none are listed exactly if they are all VLANs. -/
  carried : ∀ device d key i changes lines, t.device device = .ok d → d.ConfiguresTrunk key i →
    List.Forall₂ TrunkChange.WordedBy changes lines →
    LeadTo explainer device t lines fun d' => ∃ i', d'.ConfiguresTrunk key i' ∧
      i'.carried = changes.foldl TrunkChange.carried i.carried ∧
      (i'.trunkVlans = none ↔ i'.carried = {v | IsVlan v})
  /-- What is listed for a trunk is printed in a line, which lists it for any other trunk. -/
  printed : ∀ k d key i, t.devices.get? k = some d → d.interfaces.get? key = some i → i.mode.holds .trunk = true →
    ∃ lines, Show.interfaceCommands d i = .ok lines ∧
      (∀ text, Show.runningConfig d = .ok text → ∃ all, text = Text.unlines all ∧ lines <:+: all) ∧
      ((∃ line ∈ lines, Show.ListsVlans line) ↔ i.trunkVlans ≠ none) ∧
      ∀ line ∈ lines, Show.ListsVlans line → t'.ListsForTrunks explainer line i.trunkVlans

theorem ListsForTrunks.of_listing (cs : List Change) (explainer : Option Explainer) {s : VlanSet}
    (listing : IsListing (some s)) : (reached cs).ListsForTrunks explainer (Show.listLine s) (some s) := by
  intro device d key i hd configures
  obtain ⟨c, worded, given⟩ := Show.listLine_worded (listing.vlans s rfl)
  refine ((reached_changesTrunk cs hd configures).next (reached_orderly cs) hd worded).imp ?_
  rintro d' ⟨i', changes, made⟩
  refine ⟨i', changes.toConfiguresTrunk, ?_⟩
  rw [made, given]
  exact listing.listing_getD

/-- However labs go on, their trunks are as they are told, and as they are printed for another one. -/
theorem reached_trunksAsTold (cs cs' : List Change) (explainer : Option Explainer) :
    (reached cs).TrunksAsTold (reached cs') explainer where
  lists := by
    intro vlans order some_number isVlan distinct mem
    have ascending : vlans.sort.Pairwise (· < ·) := vlans.sortedLT_sort.pairwise
    have sorted (v : Int) : v ∈ vlans.sort ↔ v ∈ vlans := Finset.mem_sort _
    obtain ⟨v, hv⟩ := some_number
    obtain ⟨read, runs, areRuns, text⟩ := vlanListText_spec (s := ⟨vlans.sort, ascending⟩)
      (List.ne_nil_of_mem ((sorted v).2 hv)) (fun v hv => isVlan v ((sorted v).1 hv)) distinct
      fun v => (mem v).trans (sorted v).symm
    exact ⟨fun _ _ _ => map_eq_ok.2 ⟨_, read, rfl⟩, runs, areRuns, text⟩
  asked := by
    intro device d key i line c hd configures
    obtain ⟨switch, -⟩ := reached_trunk cs (device_eq_ok.1 hd) configures.port configures.trunk
    exact asks_trunkAllowed_iff configures.mode (Device.isA_of_ne switch (by decide))
  carried := by
    intro device d key i changes lines hd configures worded
    refine ((reached_changesTrunk cs hd configures).run (reached_orderly cs) hd worded).imp ?_
    rintro d' ⟨i', h, carried⟩
    exact ⟨i', h.toConfiguresTrunk, carried, Interface.trunkVlans_eq_none_iff h.trunk h.listing⟩
  printed := by
    intro k d key i hd hi trunk
    have sound := (reached_orderly cs).sound.devices k d hd
    have there : d.interfaces.get? i.name = some i := by rwa [sound.interfaces.name_eq hi]
    obtain ⟨switch, -, listing⟩ := reached_trunk cs hd hi trunk
    obtain ⟨lines, printed, -⟩ := (interfaceCommands_yields sound there).exists_ok
    refine ⟨lines, printed, fun text => Show.infix_runningConfig sound there printed,
      Show.exists_listsVlans_iff switch trunk printed, fun line mem lists => ?_⟩
    obtain ⟨s, listed, rfl⟩ := (Show.mem_and_listsVlans switch trunk printed).1 ⟨mem, lists⟩
    rw [listed]
    exact .of_listing cs' explainer (listed ▸ listing)

end Topology

end NetRack
