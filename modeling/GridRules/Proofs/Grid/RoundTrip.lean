import GridRules.Grid.Load
import GridRules.Grid.Problem
import GridRules.Grid.Report
import GridRules.Grid.Sort
import GridRules.Proofs.Column.RoundTrip
import GridRules.Proofs.Json.TypedDocuments
import GridRules.Proofs.Menu.RoundTrip

/-!
# Grids round trip

A grid that is loaded from a JSON text is read back from the value that it is written as
(`Grid.restores_of_ofJson`): the document of a JSON text is typed, and each field of the grid is
stable on typed documents.  Nothing is lost on the way, so the grid that is read back answers
everything as the first one did.
-/

namespace GridRules

open Document

lemma ElementSettings.restores (settings : ElementSettings) :
    Restores decode toValue settings where
  sorted := Value.sorted_of_names
    ["disable_resize_on_scroll", "size_to_fit_after_first_data_rendered"] (by decide) rfl (by simp)
  decoded := rfl

namespace Grid

/-- The parts of a draft that were read can be restored. -/
structure Draft.Restorable (t : Draft) : Prop where
  /-- The columns. -/
  columns : ∀ columns ∈ t.columns,
    Restores (listOf Column.decode) (fun columns => .array (columns.map Column.toValue)) columns
  /-- The classes of a row. -/
  rowClassRules : ∀ rules ∈ t.rowClassRules, Restores ClassRules.decode ClassRules.toValue rules
  /-- The context menu. -/
  contextMenu : ∀ menu ∈ t.contextMenu, Restores Menu.decode Menu.toValue menu

lemma Draft.Restorable.take ⦃t name d t'⦄ (h : Restorable t) (hd : d.Typed)
    (htake : t.take name d = .ok t') : t'.Restorable := by
  unfold Draft.take at htake
  split at htake
  case h_3 =>
    obtain ⟨columns, hcolumns, rfl⟩ := once_map_eq_ok htake
    have hstable := Column.stable_decode.listOf hd hcolumns
    exact { h with columns := fun _ hc => Option.mem_some.1 hc ▸ hstable }
  case h_4 =>
    obtain ⟨rules, hrules, rfl⟩ := once_map_eq_ok htake
    exact { h with
      rowClassRules := fun _ hr => Option.mem_some.1 hr ▸ ClassRules.stable_decode hd hrules }
  case h_5 =>
    obtain ⟨menu, hmenu, rfl⟩ := once_map_eq_ok htake
    exact { h with contextMenu := fun _ hm => Option.mem_some.1 hm ▸ Menu.stable_decode hd hmenu }
  -- the other fields are restored whatever is read
  all_goals
    obtain ⟨_, -, rfl⟩ := once_map_eq_ok htake
    exact { h with }

/-- The object of a grid is read as the grid when this is so for the parts that matter. -/
lemma restores {g : Grid}
    (columns : Restores (listOf Column.decode)
      (fun columns => .array (columns.map Column.toValue)) g.columns)
    (rowClassRules : Restores ClassRules.decode ClassRules.toValue g.rowClassRules)
    (contextMenu : Restores Menu.decode Menu.toValue g.contextMenu) :
    Restores decode toValue g := by
  have settings := g.settings.restores
  constructor
  · refine Value.sorted_of_names ["columns", "context_menu", "description", "name",
      "row_class_rules", "settings"] (by decide) rfl ?_
    simp [columns.sorted, rowClassRules.sorted, contextMenu.sorted, settings.sorted]
  · rw [decode, toValue, structureOf_ofValue,
      takeEntries_once (by decide) columns fun _ => rfl,
      takeEntries_once (by decide) contextMenu fun _ => rfl,
      takeEntries_once (by decide) (restores_asText g.description) fun _ => rfl,
      takeEntries_once (by decide) (restores_asText g.name) fun _ => rfl,
      takeEntries_once (by decide) rowClassRules fun _ => rfl,
      takeEntries_once (by decide) settings fun _ => rfl]
    rfl

/-- A grid that is read from a typed document is read back from what it is written as. -/
theorem stable_decode : Stable decode toValue := by
  intro d g hd h
  unfold decode at h
  split at h
  · cases h
  · rename_i t ht
    have hstart : Draft.Restorable ⟨none, none, none, none, none, none⟩ := by
      constructor <;> exact fun _ h => nomatch h
    have hdraft := structureOf_preserves Draft.Restorable.take hd hstart ht
    unfold Draft.finish at h
    split at h
    · cases h
    · obtain ⟨columns, hcolumns, rfl⟩ := exists_of_map_eq_ok h
      exact restores (hdraft.columns columns (required_eq_ok hcolumns))
        (restores_getD hdraft.rowClassRules ClassRules.restores_empty)
        (restores_getD hdraft.contextMenu Menu.restores_empty)

/-- A grid that is loaded from a JSON text is read back from what it is written as. -/
theorem restores_of_ofJson {text : String} {g : Grid} (h : ofJson text = .ok g) :
    Restores decode toValue g := by
  unfold ofJson at h
  cases hdecode : Json.decode decode text with
  | error e =>
    rw [hdecode] at h
    cases h
  | ok g' =>
    rw [hdecode] at h
    obtain rfl : g' = g := Except.ok.inj h
    obtain ⟨d, hd, hg⟩ := Json.exists_typed_of_decode hdecode
    exact stable_decode hd hg

/-- What a grid is written as can be read again, and nothing is lost: the grid that is read is the
one that was written, it is written the same way, and it gives the same reports, menus, problems and
sorted rows. -/
theorem written_grid_is_read_back {text : String} {g : Grid} (h : ofJson text = .ok g) :
    ∃ g', decode (.ofValue g.toValue) = .ok g' ∧ g' = g ∧ g'.toValue = g.toValue
      ∧ (∀ row filter, g'.report row filter = g.report row filter)
      ∧ (∀ row, g'.menuFor row = g.menuFor row) ∧ g'.problems = g.problems
      ∧ ∀ rows field descending,
        g'.sortRows rows field descending = g.sortRows rows field descending := by
  refine ⟨g, (restores_of_ofJson h).decoded, ?_⟩
  simp

/-- A field that is named by a number is written with its name as a text, a component that is given
as a list is written as an object, and of two rules for one class the later one is written. -/
theorem read_back_of_number_list_and_repetition :
    let text := "\x7b\"name\":\"g\",\"row_class_rules\":\x7b\"late\":true,\"late\":false\x7d,"
      ++ "\"columns\":[\x7b\"field\":\"a\",\"renderer\":[\"B\",null],"
      ++ "\"editable\":\x7b\"type\":\"value\",\"value\":1\x7d\x7d]\x7d"
    let written := Value.object [("type", .string "value"), ("value", .string "1")]
    let column : Column :=
      ⟨"a", none, .computed (.field "1"), .empty, some ⟨"B", none⟩, none, none, none, none⟩
    let g : Grid := ⟨"g", "", [column], .ofList [("late", .fixed false)], [], .default⟩
    ofJson text = .ok g ∧ column.editable.toValue = written
      ∧ ∃ g', decode (.ofValue g.toValue) = .ok g' ∧ g' = g := by
  intro text written column g
  have hsome : (ofJson text).toOption = some g := by decide +kernel
  have hload : ofJson text = .ok g := by
    cases h : ofJson text with
    | error e =>
      rw [h] at hsome
      cases hsome
    | ok g' =>
      rw [h] at hsome
      rw [Option.some.inj hsome]
  obtain ⟨g', hdecode, heq, -⟩ := written_grid_is_read_back hload
  exact ⟨hload, rfl, g', hdecode, heq⟩

end Grid

end GridRules
