import NetRack.Proofs.AccessList.Entry
import NetRack.Proofs.DoLine
import NetRack.Proofs.Identity
import NetRack.Proofs.Lookup
import NetRack.Proofs.References
import NetRack.Proofs.RouteTables

/-!
# The gateway of last resort

With the routes of a device the gateway is shown that its first default route leads to.  A packet takes another choice,
that of the longest mask and then the smallest distance.  The two are one as long as the table is in order, which is
seen to by all that write to it: the default routes lead to one network, and the first of them is the nearest.
-/

namespace NetRack

/-! ## Lines of a text -/

namespace Text

/-- The lines of a text. -/
def lines (s : String) : List String := (s.toList.splitOn '\n').map String.ofList

/-- A text that has no line end in it. -/
def IsLine (s : String) : Prop := '\n' ∉ s.toList

instance (s : String) : Decidable (IsLine s) := inferInstanceAs (Decidable ('\n' ∉ s.toList))

theorem lines_unlines {ls : List String} (some_line : ls ≠ []) (single : ∀ s ∈ ls, IsLine s) :
    lines (unlines ls) = ls := by
  have chars : (unlines ls).toList = ['\n'].intercalate (ls.map String.toList) := String.toList_intercalate ..
  have split : (unlines ls).toList.splitOn '\n' = ls.map String.toList := by
    rw [chars]
    refine List.splitOn_intercalate '\n' (fun cs hcs => ?_) (by simpa using some_line)
    obtain ⟨s, hs, rfl⟩ := List.mem_map.1 hcs
    exact single s hs
  unfold lines
  rw [split, List.map_map]
  simp

variable {s t : String}

theorem IsLine.append (hs : IsLine s) (ht : IsLine t) : IsLine (s ++ t) := by
  unfold IsLine
  rw [String.toList_append, List.mem_append]
  rintro (h | h)
  · exact hs h
  · exact ht h

theorem isLine_of_unbroken (h : Unbroken s.toList) : IsLine s := by
  intro there
  have blank := h.2 '\n' there
  revert blank
  decide

theorem isLine_spaces (n : Nat) : IsLine (spaces n) := by
  unfold IsLine spaces
  rw [String.toList_ofList]
  intro there
  have := List.eq_of_mem_replicate there
  revert this
  decide

theorem IsLine.padRight (h : IsLine s) (width : Nat) : IsLine (padRight width s) := h.append (isLine_spaces _)

theorem isLine_natText (n : Nat) : IsLine (natText n) := isLine_of_unbroken (Argument.isMarked_natText n).unbroken

theorem isLine_intText (n : Int) : IsLine (intText n) := by
  cases n with
  | ofNat n => exact isLine_natText n
  | negSucc n =>
    have minus : IsLine "-" := by decide
    exact minus.append (isLine_natText (n + 1))

theorem isLine_address (a : Address) : IsLine a.text := isLine_of_unbroken (Argument.isMarked_address a).unbroken

end Text

/-! ## What is shown -/

/-- A next hop is an address. -/
theorem IsRoute.hop_address {r : Route} (h : IsRoute r) {hop : String} (hh : r.nextHop = some hop) :
    ∃ a : Address, hop = a.text := by
  cases h with
  | connected n name short => cases hh
  | static n target distance short far =>
    cases target with
    | hop a => exact ⟨a, (Option.some.inj hh).symm⟩
    | exit name => cases hh
  | ospf n a name metric short named => exact ⟨a, (Option.some.inj hh).symm⟩

namespace Show

/-- The line that tells the gateway of last resort, or that there is none. -/
def lastResort : Option String → String
  | some g => "Gateway of last resort is " ++ g ++ " to network 0.0.0.0"
  | none => "Gateway of last resort is not set"

theorem lastResort_some (g : String) :
    lastResort (some g) = "Gateway of last resort is " ++ g ++ " to network 0.0.0.0" := rfl

theorem head?_lastResort (g : Option String) : (lastResort g).toList.head? = some 'G' := by
  cases g with
  | none => decide +kernel
  | some g =>
    have letter : "Gateway of last resort is ".toList.head? = some 'G' := by decide +kernel
    rw [lastResort_some, String.toList_append, String.toList_append, List.head?_append, List.head?_append, letter]
    rfl

theorem lastResort_inj {g g' : Option String} : lastResort g = lastResort g' ↔ g = g' := by
  have apart (g : String) : lastResort (some g) ≠ lastResort none := by
    intro same
    have last : (lastResort none).toList.getLast? = some '0' := by
      have zero : " to network 0.0.0.0".toList.getLast? = some '0' := by decide +kernel
      rw [← same, lastResort_some, String.toList_append, List.getLast?_append, zero, Option.some_or]
    have other : (lastResort none).toList.getLast? ≠ some '0' := by decide +kernel
    exact other last
  constructor
  · intro same
    cases g with
    | none =>
      cases g' with
      | none => rfl
      | some g' => exact absurd same.symm (apart g')
    | some g =>
      cases g' with
      | none => exact absurd same (apart g)
      | some g' =>
        have chars := congrArg String.toList same
        simp only [lastResort_some, String.toList_append, List.append_cancel_left_eq, List.append_cancel_right_eq,
          String.toList_inj] at chars
        rw [chars]
  · exact congrArg lastResort

theorem isLine_lastResort {g : Option String} (h : ∀ x ∈ g, Text.IsLine x) : Text.IsLine (lastResort g) := by
  cases g with
  | none =>
    show Text.IsLine "Gateway of last resort is not set"
    decide +kernel
  | some g =>
    have before : Text.IsLine "Gateway of last resort is " := by decide +kernel
    have after : Text.IsLine " to network 0.0.0.0" := by decide +kernel
    exact (before.append (h g rfl)).append after

/-- The lines above the routes of a device, given the gateway. -/
def routeHead (g : Option String) : List String := [
  "Codes: L - local, C - connected, S - static, R - RIP, O - OSPF",
  "       * - candidate default",
  "", lastResort g, ""]

/-- The gateway of the first default route. -/
def firstGateway (routes : List Route) : Option String := (routes.find? (·.net.length = 0)).map gateway

theorem routes_eq {d : Device} (readable : ∀ r ∈ d.routes, r.IsReadable) : Show.routes d =
    .ok (Text.unlines (routeHead (firstGateway d.routes) ++ d.routes.map fun r => routeRow r.net r)) := by
  have keyed := mapM_ok (l := d.routes) (f := fun r : Route => do return (← r.destination, r))
    (g := fun r => (r.net, r)) fun r hr => by
      rw [show r.destination = .ok r.net from readable r hr]
      rfl
  unfold Show.routes
  rw [keyed, ok_bind, List.find?_map, List.map_map]
  have first : firstGateway d.routes =
      (d.routes.find? ((fun e : Network × Route => decide (e.1.length = 0)) ∘ fun r => (r.net, r))).map gateway := rfl
  rw [first]
  cases d.routes.find? ((fun e : Network × Route => decide (e.1.length = 0)) ∘ fun r => (r.net, r)) <;> rfl

variable {r : Route} (h : IsRoute r)

include h

/-- A row begins with the letter of its source. -/
theorem routeRow_ne_lastResort (n : Network) (g : Option String) : routeRow n r ≠ lastResort g := by
  have letter : ∃ s, routeRow n r = r.code ++ s := by
    unfold routeRow Text.padRight
    dsimp only
    split
    · exact ⟨_, by simp only [String.append_assoc]; rfl⟩
    · split <;> exact ⟨_, by simp only [String.append_assoc]; rfl⟩
  obtain ⟨s, front⟩ := letter
  have gateway := head?_lastResort g
  intro same
  rw [← same, front] at gateway
  cases h <;> simp [Route.code, Topology.connectedRoute, staticRoute, Topology.ospfRoute] at gateway

theorem gateway_eq : r.nextHop.or r.interface = some (gateway r) := by
  have there (a : Address) : Text.present? (some a.text) = some a.text := by
    simp [Text.present?]
  cases h with
  | connected n name short => rfl
  | static n target distance short far =>
    cases target with
    | hop a => simp [gateway, staticRoute, RouteTarget.nextHop?, there]
    | exit name => rfl
  | ospf n a name metric short named => simp [gateway, Topology.ospfRoute, there]

variable (exit : ∀ name ∈ r.interface, Text.IsLine name)

include exit

theorem isLine_gateway : Text.IsLine (gateway r) := by
  have way := gateway_eq h
  cases hi : r.nextHop with
  | none =>
    rw [hi, Option.none_or] at way
    exact exit _ way
  | some hop =>
    obtain ⟨a, ha⟩ : ∃ a : Address, hop = a.text := h.hop_address hi
    rw [hi, Option.some_or] at way
    rw [← Option.some.inj way, ha]
    exact Text.isLine_address a

theorem isLine_routeRow : Text.IsLine (routeRow r.net r) := by
  have letter : Text.IsLine r.code := by
    cases h with
    | connected n name short => exact (by decide : Text.IsLine "C")
    | static n target distance short far => exact (by decide : Text.IsLine "S")
    | ospf n a name metric short named => exact (by decide : Text.IsLine "O")
  have star : Text.IsLine (if r.net.length = 0 then "*" else "") := by
    split
    · decide
    · decide
  have network : Text.IsLine r.net.text :=
    ((Text.isLine_address _).append (by decide)).append (Text.isLine_natText _)
  have code : Text.IsLine (Text.padRight 5 (r.code ++ (if r.net.length = 0 then "*" else "")) ++ r.net.text) :=
    ((letter.append star).padRight 5).append network
  have cost : Text.IsLine (" [" ++ Text.intText r.distance ++ "/" ++ Text.intText r.metric ++ "] via ") := by
    refine Text.IsLine.append (Text.IsLine.append (Text.IsLine.append (Text.IsLine.append ?_ ?_) ?_) ?_) ?_
    · decide
    · exact Text.isLine_intText _
    · decide
    · exact Text.isLine_intText _
    · decide
  have out : Text.IsLine (orNone r.interface) := by
    cases hi : r.interface with
    | none => exact (by decide : Text.IsLine "None")
    | some name => exact exit name hi
  have direct := (code.append (by decide : Text.IsLine " is directly connected, ")).append out
  unfold routeRow
  dsimp only
  split
  · exact direct
  · split
    · rename_i hop i hhop hi
      obtain ⟨a, rfl⟩ := h.hop_address (present?_eq_some hhop)
      have before := (code.append cost).append (Text.isLine_address a)
      exact (before.append (by decide)).append (exit i (present?_eq_some hi))
    · rename_i hop hhop alone
      obtain ⟨a, rfl⟩ := h.hop_address (present?_eq_some hhop)
      exact (code.append cost).append (Text.isLine_address a)
    · exact direct

end Show

section Lines

open Show

variable {d : Device} (each : ∀ r ∈ d.routes, IsRoute r)
  (exits : ∀ r ∈ d.routes, ∀ name ∈ r.interface, Text.IsLine name)

include each exits

/-- Of all lines that a device shows with its routes, just one tells a gateway of last resort. -/
theorem exists_routes : ∃ text, Show.routes d = .ok text ∧
    ∀ g, lastResort g ∈ Text.lines text ↔ g = firstGateway d.routes := by
  refine ⟨_, routes_eq fun r hr => (each r hr).readable, fun g => ?_⟩
  have gateway : ∀ x ∈ firstGateway d.routes, Text.IsLine x := by
    intro x hx
    obtain ⟨r, hr, rfl⟩ := Option.map_eq_some_iff.1 hx
    have mem := List.mem_of_find?_eq_some hr
    exact isLine_gateway (each r mem) (exits r mem)
  have single : ∀ s ∈ routeHead (firstGateway d.routes) ++ d.routes.map (fun r => routeRow r.net r),
      Text.IsLine s := by
    intro s hs
    rcases List.mem_append.1 hs with hs | hs
    · simp only [routeHead, List.mem_cons, List.not_mem_nil, or_false] at hs
      rcases hs with rfl | rfl | rfl | rfl | rfl
      · decide +kernel
      · decide +kernel
      · decide
      · exact isLine_lastResort gateway
      · decide
    · obtain ⟨r, hr, rfl⟩ := List.mem_map.1 hs
      exact isLine_routeRow (each r hr) (exits r hr)
  have some_line : routeHead (firstGateway d.routes) ++ d.routes.map (fun r => routeRow r.net r) ≠ [] := by
    simp [routeHead]
  rw [Text.lines_unlines some_line single, List.mem_append]
  constructor
  · rintro (hs | hs)
    · have other {s : String} (letter : s.toList.head? ≠ some 'G') : lastResort g ≠ s := by
        intro same
        rw [← same] at letter
        exact letter (head?_lastResort g)
      simp only [routeHead, List.mem_cons, List.not_mem_nil, or_false] at hs
      rcases hs with same | same | same | same | same
      · exact absurd same (other (by decide +kernel))
      · exact absurd same (other (by decide +kernel))
      · exact absurd same (other (by decide))
      · exact lastResort_inj.1 same
      · exact absurd same (other (by decide))
    · obtain ⟨r, hr, same⟩ := List.mem_map.1 hs
      exact absurd same (routeRow_ne_lastResort (each r hr) r.net g)
  · rintro rfl
    exact Or.inl (by simp [routeHead])

end Lines

/-! ## Default routes -/

/-- A route leads everywhere. -/
def Route.IsDefault (r : Route) : Prop := ∃ n, r.destination = .ok n ∧ n.length = 0

/-- A network of length 0 has all addresses. -/
theorem Network.contains_of_length {n : Network} (zero : n.length = 0) (a : Address) : n.contains a = true := by
  have all (b : Address) : b.masked 0 = .zero := by
    have mask : (Address.netmask 0).bits = 0#32 := by decide
    unfold Address.masked
    rw [mask, BitVec.and_zero]
    rfl
  have base := n.aligned
  rw [zero, all] at base
  unfold contains
  rw [zero, all, ← base]
  exact decide_eq_true rfl

theorem Route.IsReadable.isDefault_iff {r : Route} (h : r.IsReadable) : r.IsDefault ↔ r.net.length = 0 := by
  constructor
  · rintro ⟨n, hn, zero⟩
    rw [show r.destination = .ok r.net from h] at hn
    cases hn
    exact zero
  · intro zero
    exact ⟨r.net, h, zero⟩

theorem Route.IsDefault.leadsTo {r : Route} (h : r.IsDefault) (a : Address) : r.LeadsTo a := by
  obtain ⟨n, hn, zero⟩ := h
  exact ⟨n, hn, n.contains_of_length zero a⟩

/-- Where only default routes lead to an address, the first of them in a table in order is looked up. -/
theorem lookupRoute_default {routes : List Route} (readable : ∀ r ∈ routes, r.IsReadable)
    (order : Ascending Route.key routes) {a : Address} (leads : ∃ r ∈ routes, r.LeadsTo a)
    (only : ∀ r ∈ routes, r.LeadsTo a → r.IsDefault) :
    ∃ r, lookupRoute routes a = .ok (some r) ∧ routes.find? (·.net.length = 0) = some r := by
  obtain ⟨found, hok, way⟩ := (lookupRoute_goesBefore readable order a).exists_ok
  cases found with
  | none =>
    obtain ⟨r, hr, there⟩ := leads
    exact absurd there (way r hr)
  | some r =>
    obtain ⟨hr, there, first⟩ := way
    have default := (readable r hr).isDefault_iff.1 (only r hr there)
    obtain ⟨s, hs⟩ : ∃ s, routes.find? (·.net.length = 0) = some s :=
      Option.isSome_iff_exists.1 (List.find?_isSome.2 ⟨r, hr, by simpa using default⟩)
    obtain ⟨zero, before, after, heq, none⟩ := List.find?_eq_some_iff_append.1 hs
    have zero : s.net.length = 0 := by simpa using zero
    refine ⟨r, hok, ?_⟩
    by_cases same : s = r
    · rw [hs, same]
    -- The route that is looked up would come after the first default route, and go before it.
    have behind : r ∈ after := by
      rw [heq, List.mem_append, List.mem_cons] at hr
      rcases hr with hr | rfl | hr
      · have := none r hr
        simp [default] at this
      · exact absurd rfl same
      · exact hr
    have mem : s ∈ routes := List.mem_of_find?_eq_some hs
    have lt : compare s.key r.key = .lt := by
      have apart := order
      rw [heq] at apart
      exact List.rel_of_pairwise_cons (List.pairwise_append.1 apart).2.1 behind
    have net : s.net = r.net :=
      Network.eq_of_contains (s.net.contains_of_length zero a) (r.net.contains_of_length default a)
        (zero.trans default.symm)
    have ahead := first s mem (((readable s mem).isDefault_iff.2 zero).leadsTo a) same
    exact absurd (Route.goesBefore_of_key_lt net lt) ahead.asymm

/-! ## Showing it -/

namespace Console

/-- Nothing is noticed of a device that stays as it is. -/
theorem linkNotices_self {d : Device} (h : d.Sound) : Show.linkNotices d d = .ok [] := by
  unfold Show.linkNotices
  rw [Device.sortedInterfaces_of_table h.interfaces, ok_bind]
  refine congrArg Except.ok (List.flatMap_eq_nil_iff.2 fun i hi => ?_)
  simp [(Device.mem_ordered_values h.interfaces).1 hi, Show.stateNotices]

section Lines

variable {t : Topology} {d : Device} {line text : String} {item : ShowItem}

/-- A line that has something shown says what there is, and changes nothing. -/
theorem execute_display (h : t.Orderly) {device : String} (hd : t.device device = .ok d)
    (explainer : Option Explainer) (asks : Asks d line (.exec (.display item))) (shown : item.render t d = .ok text) :
    ∃ r, execute explainer t device line = .ok r ∧ r.valid = true ∧ r.output = text ∧ r.topology = t := by
  have hget := Topology.device_eq_ok.1 hd
  have applied : (Command.exec (.display item)).apply t d = .ok { device := d, output := text } := by
    show (do return { device := d, output := ← item.render t d } : Except Failure Outcome) = _
    rw [shown]
    rfl
  have done : run t d line = .ok (some { device := d, output := text }) := by
    rw [run_command asks, applied]
    rfl
  have room : d.HasRoom := Or.inl (h.seated _ d hget).stacked
  rw [execute_looks h hd explainer done (.of_same room.capacity rfl rfl rfl),
    doneResult_eq (linkNotices_self (h.sound.devices _ d hget))]
  refine ⟨_, rfl, rfl, ?_, Topology.replaced_self hget⟩
  show Text.unlines (List.filter _ [text]) = text
  by_cases empty : text = ""
  · rw [empty]
    rfl
  · rw [List.filter_eq_self.2 fun s hs => by simpa [List.mem_singleton.1 hs] using empty]
    exact String.intercalate_singleton

open Grammar in
theorem course_showIpRoute {mode : Mode} (exec : mode = .user ∨ mode = .privileged) :
    ∃ first second third : List String,
    [⟨first, .keyword "show" none⟩, ⟨second, .keyword "ip" none⟩, ⟨third, .keyword "route" none⟩] ∈
      (root mode .ios).coursesTo .showIpRoute ∧ "show" ∈ first ∧ "ip" ∈ second ∧ "route" ∈ third := by
  rcases exec with rfl | rfl
  · refine ⟨userGrammar.rivals, ["version", "ip"], ["interface", "route"], ?_⟩
    decide +kernel
  · refine ⟨privilegedGrammar.rivals, ["version", "running-config", "startup-config", "vlan", "interfaces",
      "access-lists", "etherchannel", "port-security", "cdp", "ip"],
      ["interface", "route", "protocols", "ospf", "nat", "dhcp"], ?_⟩
    decide +kernel

/-- Where no configuration is, `show ip route` asks for the routes. -/
theorem asks_showIpRoute (exec : d.mode = .user ∨ d.mode = .privileged) (ios : d.isA .pc = false) :
    Asks d "show ip route" (.exec (.display .routes)) := by
  obtain ⟨first, second, third, course, inFirst, inSecond, inThird⟩ := course_showIpRoute exec
  rw [← root_of_ios rfl ios] at course
  have texts : (Text.words "show ip route").map (·.text) = ["show", "ip", "route"] := by decide +kernel
  obtain ⟨w, _, hwords, hw, texts⟩ := List.map_eq_cons_iff.1 texts
  obtain ⟨w', _, rfl, hw', texts⟩ := List.map_eq_cons_iff.1 texts
  obtain ⟨w'', rfl, hw''⟩ := List.map_eq_singleton_iff.1 texts
  have chosen : Chooses first w.text "show" ∧ Chooses second w'.text "ip" ∧ Chooses third w''.text "route" := by
    rw [hw, hw', hw'']
    exact ⟨.of_lower inFirst (by decide), .of_lower inSecond (by decide), .of_lower inThird (by decide)⟩
  have follows : Follows "show ip route".toList (some d)
      [⟨first, .keyword "show" none⟩, ⟨second, .keyword "ip" none⟩, ⟨third, .keyword "route" none⟩]
      (Text.words "show ip route") [⟨.keyword "show" none, .text "show"⟩, ⟨.keyword "ip" none, .text "ip"⟩,
        ⟨.keyword "route" none, .text "route"⟩] := by
    rw [hwords]
    exact .keyword chosen.1 (.keyword chosen.2.1 (.keyword chosen.2.2 .done))
  refine asks_of_follows (Node.mem_coursesTo.1 course) (by simp [hwords]) follows (by decide) fun r gathers => ?_
  unfold ResolvedCommand.command
  rw [gathers.verb]
  rfl

end Lines

end Console

/-! ## Histories -/

/-- A text shows the gateway of last resort of a device: it names one if and only if there is a default route, and
says otherwise that there is none.  Where only default routes lead to an address, it names the next hop, or else the
interface, of the route that is looked up, and no other. -/
structure Device.ShowsGateway (d : Device) (text : String) : Prop where
  named : (∃ g, Show.lastResort (some g) ∈ Text.lines text) ↔ ∃ r ∈ d.routes, r.IsDefault
  unset : Show.lastResort none ∈ Text.lines text ↔ ∀ r ∈ d.routes, ¬r.IsDefault
  used : ∀ a, (∃ r ∈ d.routes, r.LeadsTo a) → (∀ r ∈ d.routes, r.LeadsTo a → r.IsDefault) →
    ∃ r g, lookupRoute d.routes a = .ok (some r) ∧ r.nextHop.or r.interface = some g ∧
      ∀ g', Show.lastResort (some g') ∈ Text.lines text ↔ g' = g

namespace Topology

/-- Of every device the gateway is shown that it uses, by any line that has the routes of the device shown, such as
`show ip route` where nothing is configured. -/
def ShowsGateways (t : Topology) : Prop := ∀ device d, t.device device = .ok d →
  ∃ text, Show.routes d = .ok text ∧ d.ShowsGateway text ∧
    (∀ explainer line, Console.Asks d line (.exec (.display .routes)) →
      ∃ r, Console.execute explainer t device line = .ok r ∧ r.valid = true ∧ r.output = text ∧ r.topology = t) ∧
    (d.isA .pc = false → d.mode = .user ∨ d.mode = .privileged →
      Console.Asks d "show ip route" (.exec (.display .routes)))

/-- The interfaces that routes leave by are interfaces of the device. -/
theorem reached_exits (cs : List Change) {key : String} {d : Device} (hd : (reached cs).devices.get? key = some d)
    {r : Route} (hr : r ∈ d.routes) {name : String} (exit : r.interface = some name) : name ∈ d.interfaces.keys := by
  have ordered := reached_orderly cs
  have source : r.isFrom .connected = true ∨ r.isFrom .static = true ∨ r.isFrom .ospf = true := by
    cases (ordered.sound.devices key d hd).routes.each r hr with
    | connected n name short => exact Or.inl rfl
    | static n target distance short far => exact Or.inr (Or.inl rfl)
    | ospf n a name metric short named => exact Or.inr (Or.inr rfl)
  rcases source with connected | static | ospf
  · obtain ⟨name', i, exit', hi, -⟩ := ordered.settled.no_other_routes ordered.sound hd hr connected
    rw [← Option.some.inj (exit'.symm.trans exit)]
    exact Table.mem_keys_of_get? hi
  · exact Table.contains_iff.1 (reached_refers cs key d hd name (.route hr static exit))
  · obtain ⟨i, exit', hi, -⟩ := (reached_ospfInPlace cs hd).works r hr ospf
    rw [← Option.some.inj (exit'.symm.trans exit)]
    exact Table.mem_keys_of_get? hi

/-- However a lab goes on, the gateway that is shown of a device is the one that it uses. -/
theorem reached_showsGateways (cs : List Change) : (reached cs).ShowsGateways := by
  intro device d hd
  have hget := device_eq_ok.1 hd
  have ordered := reached_orderly cs
  have table := (ordered.sound.devices _ d hget).routes
  have readable : ∀ r ∈ d.routes, r.IsReadable := fun r hr => (table.each r hr).readable
  have named : d.ports.Named := reached_ports Ports.Named.factory (fun _ _ _ _ h s => h.step s) cs hget
  have exits : ∀ r ∈ d.routes, ∀ name ∈ r.interface, Text.IsLine name := by
    intro r hr name exit
    have known : name ∈ d.ports.interfaces.keys := by
      rw [Device.keys_ports]
      exact reached_exits cs hget hr exit
    exact Text.isLine_of_unbroken (named.spelled name known).isMarked.unbroken
  obtain ⟨text, shown, told⟩ := exists_routes table.each exits
  have default : (Show.firstGateway d.routes).isSome = true ↔ ∃ r ∈ d.routes, r.IsDefault := by
    unfold Show.firstGateway
    rw [Option.isSome_map, List.find?_isSome]
    refine exists_congr fun r => and_congr_right fun hr => ?_
    rw [(readable r hr).isDefault_iff, decide_eq_true_iff]
  refine ⟨text, shown, ⟨?_, ?_, fun a leads only => ?_⟩, fun explainer line asks => ?_, fun ios exec => ?_⟩
  · rw [← default, Option.isSome_iff_exists]
    exact exists_congr fun g => (told (some g)).trans eq_comm
  · rw [told, eq_comm, ← Option.not_isSome_iff_eq_none, default]
    simp
  · obtain ⟨r, looked, first⟩ := lookupRoute_default readable table.ascending leads only
    have mem : r ∈ d.routes := List.mem_of_find?_eq_some first
    refine ⟨r, Show.gateway r, looked, Show.gateway_eq (table.each r mem), fun g => ?_⟩
    rw [told, Show.firstGateway, first, Option.map_some, Option.some_inj]
  · exact Console.execute_display ordered hd explainer asks (congrArg (fun x => liftM x) shown)
  · exact Console.asks_showIpRoute exec ios

end Topology

end NetRack
