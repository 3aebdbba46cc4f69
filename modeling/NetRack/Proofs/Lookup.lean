import NetRack.Proofs.Route
import Mathlib.Data.Finset.Dedup

/-!
# Looking routes up

Routes with different keys make the same table in whatever order they are put into it.  An address is looked up as the
route with the longest mask of those that lead to it; among these the distance decides, and then the texts of the next
hop and the interface.  So the order that a table is kept in, which is by another key, never stands against the choice.
-/

namespace NetRack

/-! ## What decides -/

namespace Route

/-- A route leads to an address. -/
def LeadsTo (r : Route) (a : Address) : Prop := ∃ n, r.destination = .ok n ∧ n.contains a = true

/-- A route goes before another: its mask is longer, or as long and its distance smaller, or that is the same as well
and the texts of its next hop and its interface come first. -/
def GoesBefore (r s : Route) : Prop :=
  s.net.length < r.net.length ∨ s.net.length = r.net.length ∧ (r.distance < s.distance ∨ r.distance = s.distance ∧
    (r.nextHop.getD "" < s.nextHop.getD "" ∨
      r.nextHop.getD "" = s.nextHop.getD "" ∧ r.interface.getD "" < s.interface.getD ""))

theorem leadsTo_iff {r : Route} {a : Address} (h : r.IsReadable) : r.LeadsTo a ↔ r.net.contains a = true := by
  constructor
  · rintro ⟨n, hn, there⟩
    rw [show r.destination = .ok r.net from h] at hn
    cases hn
    exact there
  · intro there
    exact ⟨r.net, h, there⟩

end Route

/-- What is found for an address among some routes is nothing if none of them leads there, and otherwise the one that
goes before all others that do. -/
def IsWayTo (a : Address) (there : Route → Prop) : Option Route → Prop
  | none => ∀ r, there r → ¬r.LeadsTo a
  | some r => there r ∧ r.LeadsTo a ∧ ∀ s, there s → s.LeadsTo a → s ≠ r → r.GoesBefore s

/-- A table is that of a set of routes: it comes of putting these in, in whatever order, and the way to any address is
found in it. -/
structure IsTableOf (routes : Finset Route) (table : List Route) : Prop where
  inserted : ∀ order : List Route, (∀ r, r ∈ order ↔ r ∈ routes) → order.foldlM insertRoute [] = .ok table
  mem : ∀ r, r ∈ table ↔ r ∈ routes
  lookup : ∀ a, Yields (IsWayTo a (· ∈ routes)) (lookupRoute table a)

/-- Networks of one length that share an address are the same. -/
theorem Network.eq_of_contains {m n : Network} {a : Address} (hm : m.contains a = true) (hn : n.contains a = true)
    (length : m.length = n.length) : m = n := by
  have hm : a.masked m.length = m.base := of_decide_eq_true hm
  have hn : a.masked n.length = n.base := of_decide_eq_true hn
  cases m
  cases n
  cases length
  cases hm.symm.trans hn
  rfl

/-- Of routes to one network the one with the smaller key goes first. -/
theorem Route.goesBefore_of_key_lt {r s : Route} (net : r.net = s.net) (lt : compare r.key s.key = .lt) :
    r.GoesBefore s := by
  have lt : (compare r.net.base.toNat s.net.base.toNat).then ((compare r.net.length s.net.length).then
      ((compare r.distance s.distance).then ((compare (r.nextHop.getD "") (s.nextHop.getD "")).then
        (compare (r.interface.getD "") (s.interface.getD ""))))) = .lt := lt
  rw [net, Std.ReflOrd.compare_self, Std.ReflOrd.compare_self] at lt
  simp only [Ordering.then] at lt
  refine Or.inr ⟨by rw [net], ?_⟩
  rcases Ordering.then_eq_lt.1 lt with distance | ⟨distance, texts⟩
  · exact Or.inl (compareOfLessAndEq_eq_lt.1 distance)
  refine Or.inr ⟨Std.LawfulEqOrd.eq_of_compare distance, ?_⟩
  rcases Ordering.then_eq_lt.1 texts with hop | ⟨hop, exit⟩
  · exact Or.inl (compareOfLessAndEq_eq_lt.1 hop)
  · exact Or.inr ⟨Std.LawfulEqOrd.eq_of_compare hop, compareOfLessAndEq_eq_lt.1 exit⟩

/-- No two routes go before each other. -/
theorem Route.GoesBefore.asymm {r s : Route} (h : r.GoesBefore s) : ¬s.GoesBefore r := by
  rcases h with longer | ⟨length, nearer | ⟨distance, hop | ⟨hop, exit⟩⟩⟩
  · rintro (longer' | ⟨length', -⟩) <;> omega
  · rintro (longer' | ⟨-, nearer' | ⟨distance', -⟩⟩) <;> omega
  · rintro (longer' | ⟨-, nearer' | ⟨-, hop' | ⟨hop', -⟩⟩⟩)
    · omega
    · omega
    · exact String.lt_asymm hop hop'
    · exact String.ne_of_lt hop hop'.symm
  · rintro (longer' | ⟨-, nearer' | ⟨-, hop' | ⟨-, exit'⟩⟩⟩)
    · omega
    · omega
    · exact String.ne_of_lt hop' hop.symm
    · exact String.lt_asymm exit exit'

/-! ## The order of a table -/

/-- What comes first in a list in order has the smaller key. -/
theorem Ascending.compare_lt {α κ : Type} [DecidableEq α] [Ord κ] {key : α → κ} {xs : List α} (h : Ascending key xs)
    {x y : α} (hx : x ∈ xs) (hy : y ∈ xs) (other : x ≠ y) (le : xs.idxOf x ≤ xs.idxOf y) :
    compare (key x) (key y) = .lt := by
  have ix := List.idxOf_lt_length_iff.2 hx
  have iy := List.idxOf_lt_length_iff.2 hy
  have lt : xs.idxOf x < xs.idxOf y := by
    refine Nat.lt_of_le_of_ne le fun same => other ?_
    rw [← List.getElem_idxOf ix, ← List.getElem_idxOf iy]
    simp only [same]
  have apart := List.pairwise_iff_getElem.1 h _ _ ix iy lt
  rwa [List.getElem_idxOf, List.getElem_idxOf] at apart

/-- What is looked up in a table in order goes before all other routes to the address. -/
theorem lookupRoute_goesBefore {routes : List Route} (readable : ∀ r ∈ routes, r.IsReadable)
    (order : Ascending Route.key routes) (a : Address) :
    Yields (IsWayTo a (· ∈ routes)) (lookupRoute routes a) := by
  have mem {r : Route} : r ∈ routesTo routes a ↔ r ∈ routes ∧ r.LeadsTo a := by
    rw [mem_routesTo]
    exact and_congr_right fun hr => (Route.leadsTo_iff (readable r hr)).symm
  rw [lookupRoute_eq readable]
  cases found : (routesTo routes a).argmax Route.preference with
  | none =>
    intro r hr there
    have none : routesTo routes a = [] := List.argmax_eq_none.1 found
    have := mem.2 ⟨hr, there⟩
    rw [none] at this
    cases this
  | some r =>
    obtain ⟨hr, best, first⟩ := List.argmax_eq_some_iff.1 found
    refine ⟨(mem.1 hr).1, (mem.1 hr).2, fun s hs there other => ?_⟩
    have hs' := mem.2 ⟨hs, there⟩
    rcases Route.preference_le.1 (best s hs') with longer | ⟨length, distance⟩
    · exact Or.inl longer
    rcases lt_or_eq_of_le distance with nearer | distance
    · exact Or.inr ⟨length, Or.inl nearer⟩
    -- Two routes that are preferred alike lead to the same network, and the table has the chosen one first.
    have net : r.net = s.net := Network.eq_of_contains ((mem_routesTo.1 hr).2) ((mem_routesTo.1 hs').2) length.symm
    have alike : r.preference ≤ s.preference := Route.preference_le.2 (Or.inr ⟨length.symm, distance.ge⟩)
    exact Route.goesBefore_of_key_lt net ((order.filter _).compare_lt hr hs' other.symm (first s hs' alike))

/-! ## Putting routes into a table -/

/-- Routes with different keys are put into a table in order, whatever the order they come in. -/
theorem insertRoutes_ascending {routes : List Route} (readable : ∀ r ∈ routes, r.IsReadable)
    (apart : ∀ r ∈ routes, ∀ s ∈ routes, r.key = s.key → r = s) :
    Yields (fun table => Ascending Route.key table ∧ ∀ r, r ∈ table ↔ r ∈ routes) (routes.foldlM insertRoute []) := by
  induction routes using List.reverseRecOn with
  | nil => exact ⟨List.Pairwise.nil, fun r => Iff.rfl⟩
  | append_singleton routes r ih =>
    rw [List.foldlM_append]
    refine (ih (fun s hs => readable s (by simp [hs])) fun s hs x hx => apart s (by simp [hs]) x (by simp [hx])).bind ?_
    rintro table ⟨order, mem⟩
    simp only [List.foldlM_cons, List.foldlM_nil, bind_pure]
    have known : ∀ s ∈ table, s ∈ routes ++ [r] := fun s hs => List.mem_append_left _ ((mem s).1 hs)
    refine (insertRoute_ascending (fun s hs => readable s (known s hs)) order (readable r (by simp))
      fun s hs => apart s (known s hs) r (by simp)).imp ?_
    rintro result ⟨order', mem'⟩
    refine ⟨order', fun s => ?_⟩
    rw [mem', mem, List.mem_append, List.mem_singleton]

/-- Routes whose networks can be read and whose keys differ make one table, in whatever order they are put into it. -/
theorem inserted_lookup (routes : Finset Route) (readable : ∀ r ∈ routes, ∃ n, r.destination = .ok n)
    (apart : ∀ r ∈ routes, ∀ s ∈ routes, r.sortKey = s.sortKey → r = s) : ∃ table, IsTableOf routes table := by
  have readable : ∀ r ∈ routes, r.IsReadable := fun r hr => Route.isReadable_iff.2 (readable r hr)
  have apart : ∀ r ∈ routes, ∀ s ∈ routes, r.key = s.key → r = s := by
    intro r hr s hs same
    refine apart r hr s hs ?_
    rw [(readable r hr).sortKey, (readable s hs).sortKey, same]
  have inserts (order : List Route) (mem : ∀ r, r ∈ order ↔ r ∈ routes) :
      Yields (fun table => Ascending Route.key table ∧ ∀ r, r ∈ table ↔ r ∈ routes) (order.foldlM insertRoute []) := by
    refine (insertRoutes_ascending (fun r hr => readable r ((mem r).1 hr))
      fun r hr s hs => apart r ((mem r).1 hr) s ((mem s).1 hs)).imp ?_
    rintro table ⟨ascending, same⟩
    exact ⟨ascending, fun r => (same r).trans (mem r)⟩
  obtain ⟨table, -, ascending, mem⟩ := (inserts routes.toList fun r => Finset.mem_toList).exists_ok
  refine ⟨table, fun order same => ?_, mem, fun a => ?_⟩
  · obtain ⟨table', hok, ascending', mem'⟩ := (inserts order same).exists_ok
    rw [hok, ascending'.eq_of_mem_iff ascending fun r => (mem' r).trans (mem r).symm]
  · have way := lookupRoute_goesBefore (fun r hr => readable r ((mem r).1 hr)) ascending a
    rwa [show (· ∈ table) = (· ∈ routes) from funext fun r => propext (mem r)] at way

/-- Two ways to everywhere, two as good to a site, and one to a part of it, whose mask is written the other way
around. -/
def siteRoutes : List Route := [
  { network := "10.1.0.0", mask := "0.0.255.255", source := .known .static, distance := 200,
    interface := some "Serial0/0/0" },
  { network := "10.0.0.0", mask := "255.0.0.0", source := .known .static, distance := 1, nextHop := some "192.0.2.3" },
  { network := "0.0.0.0", mask := "0.0.0.0", source := .known .static, distance := 5, nextHop := some "192.0.2.1" },
  { network := "10.0.0.0", mask := "255.0.0.0", source := .known .static, distance := 1, nextHop := some "192.0.2.2" },
  { network := "0.0.0.0", mask := "0.0.0.0", source := .known .static, distance := 1, nextHop := some "192.0.2.9" }]

theorem siteRoutes_lookup :
    (∀ r ∈ siteRoutes.toFinset, ∃ n, r.destination = .ok n) ∧
      (∀ r ∈ siteRoutes.toFinset, ∀ s ∈ siteRoutes.toFinset, r.sortKey = s.sortKey → r = s) ∧
      ∃ table, IsTableOf siteRoutes.toFinset table := by
  have readable : ∀ r ∈ siteRoutes.toFinset, ∃ n, r.destination = .ok n := by
    have each : ∀ r ∈ siteRoutes, r.destination = .ok r.net := by decide +kernel
    exact fun r hr => ⟨r.net, each r (List.mem_toFinset.1 hr)⟩
  have apart : ∀ r ∈ siteRoutes.toFinset, ∀ s ∈ siteRoutes.toFinset, r.sortKey = s.sortKey → r = s := by
    have each : ∀ r ∈ siteRoutes, ∀ s ∈ siteRoutes, r.sortKey = s.sortKey → r = s := by decide +kernel
    exact fun r hr s hs => each r (List.mem_toFinset.1 hr) s (List.mem_toFinset.1 hs)
  exact ⟨readable, apart, inserted_lookup siteRoutes.toFinset readable apart⟩

end NetRack
