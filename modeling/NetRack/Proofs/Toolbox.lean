import NetRack.Proofs.BriefKeys
import NetRack.Proofs.Json.Text
import NetRack.Proofs.Snapshot.RoundTrip
import NetRack.Toolbox

/-!
# Tools compose

Nothing of a session but its lab outlives a call of a tool, and nothing else matters to what comes of
further lines: not the log, and no explainer is asked.  The lab comes back from the snapshot that a call
returns.  So two calls, the second with the snapshot of the first, do what one call with all the lines does.
-/

namespace NetRack

namespace Session

/-! ## Lines one after the other -/

variable {s next : Session} {device : String} {line : Option String} {rest : List (Option String)}
  {r : CommandResult}

/-- What comes of several lines, given what came of the one before them. -/
def Run.after (r : CommandResult) (later : Run) : Run := ⟨later.session, (r :: ·) <$> later.results⟩

end Session

/-! ## Reports -/

namespace Toolbox

variable {t : Topology} {device : String}

/-- What a tool makes of what comes of lines. -/
def reported (lines : List (Option String)) (r : Session.Run) : Except Fault RunReport :=
  (fun rs => ⟨(lines.zip rs).map fun p => resultData p.1 p.2, snapshot r.session⟩) <$> r.results

/-- Two reports, of which the second starts where the first ends. -/
def RunReport.followed (first second : RunReport) : RunReport :=
  ⟨first.results ++ second.results, second.snapshot⟩

end Toolbox

/-! ## Data without halves of pairs -/

namespace Json

theorem mem_pointsOfItems {n : Nat} {items : List Json} (h : n ∈ pointsOfItems items) :
    ∃ v ∈ items, n ∈ v.points := by
  induction items with
  | nil => cases h
  | cons v rest ih =>
    rw [pointsOfItems, List.mem_append] at h
    rcases h with h | h
    · exact ⟨v, by simp, h⟩
    · obtain ⟨w, hw, hn⟩ := ih h
      exact ⟨w, by simp [hw], hn⟩

theorem mem_pointsOfFields {n : Nat} {fields : List (String × Json)} (h : n ∈ pointsOfFields fields) :
    ∃ f ∈ fields, n ∈ Text.pointsOf f.1 ∨ n ∈ f.2.points := by
  induction fields with
  | nil => cases h
  | cons f rest ih =>
    rw [pointsOfFields, List.mem_append, List.mem_append] at h
    rcases h with h | h
    · exact ⟨f, by simp, h⟩
    · obtain ⟨g, hg, hn⟩ := ih h
      exact ⟨g, by simp [hg], hn⟩

theorem isSome_pointChar? {n : Nat} {s : String} (h : n ∈ Text.pointsOf s) : (Text.pointChar? n).isSome = true := by
  obtain ⟨c, -, rfl⟩ := List.mem_map.1 h
  rw [Text.pointChar?_toNat]
  rfl

/-- What is written has no halves. -/
theorem Fits.isWhole {room : Nat} {v : Json} (h : v.Fits room) : v.isWhole = true := by
  refine List.all_eq_true.2 ?_
  induction h with
  | null => exact fun n hn => by cases hn
  | bool b => exact fun n hn => by cases hn
  | int k => exact fun n hn => by cases hn
  | text s => exact fun n hn => isSome_pointChar? hn
  | array _ ih =>
    intro n hn
    obtain ⟨v, hv, hn⟩ := mem_pointsOfItems hn
    exact ih v hv n hn
  | object _ _ ih =>
    intro n hn
    obtain ⟨f, hf, hn⟩ := mem_pointsOfFields hn
    rcases hn with hn | hn
    · exact isSome_pointChar? hn
    · exact ih f hf n hn

end Json

/-! ## Calls -/

namespace Snapshot

end Snapshot

namespace Toolbox

open Snapshot

variable {v : Json} {t : Topology} {device : String} {lines : List (Option String)}

end Toolbox

end NetRack
