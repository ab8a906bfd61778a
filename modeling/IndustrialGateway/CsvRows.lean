import IndustrialGateway.ConfigService

/-!
# Written files

What a loop over the rows of a file sees of the rows that were written into it.
-/

namespace IndustrialGateway

namespace ConfigService

variable {F : Type} [PyRuntime F] {fields : List String}

theorem textOr_blank (s : String) : textOr (some s) "" = s := by
  rw [textOr]
  split
  · rename_i hblank
    exact hblank.symm
  · rfl

/-- A written row as the reader gives it. -/
def readBack (fields : List String) (row : Settings F) : Csv.Row :=
  .ofList (fields.map fun key => (key, some (csvCell row key)))

theorem keys_readBack (row : Settings F) :
    (fields.map fun key => (key, some (csvCell row key))).map Prod.fst = fields := by
  rw [List.map_map]
  exact List.map_id fields

theorem cell_readBack (hn : fields.Nodup) (row : Settings F) (key : String) :
    cell (readBack fields row) key = if key ∈ fields then some (csvCell row key) else none := by
  have hkeys : (fields.map fun key => (key, some (csvCell row key))).map Prod.fst = fields :=
    keys_readBack row
  rw [cell, readBack, OrderedDict.get?_ofList_of_nodup (hkeys.symm ▸ hn)]
  split
  · rename_i hmem
    have hlookup : OrderedDict.lookup key (fields.map fun key => (key, some (csvCell row key))) =
        some (some (csvCell row key)) :=
      (OrderedDict.lookup_eq_some (hkeys.symm ▸ hn)).mpr (List.mem_map.mpr ⟨key, hmem, rfl⟩)
    rw [hlookup]
    rfl
  · rename_i hmem
    have hlookup : OrderedDict.lookup key (fields.map fun key => (key, some (csvCell row key))) =
        none := by
      rw [OrderedDict.lookup_eq_none, hkeys]
      exact hmem
    rw [hlookup]
    rfl

theorem dictReader_readBack (hne : fields ≠ []) (rows : List (Settings F)) :
    Csv.dictReader (Csv.dictWriter fields (rows.map csvCell)) =
      ⟨.ok (some fields), rows.map (readBack fields), none⟩ := by
  have hread (row : Settings F) : OrderedDict.ofList (fields.map fun key =>
      (key, some (csvCell row key))) = readBack fields row := by rw [readBack]
  simp only [Csv.dictReader_dictWriter hne, List.map_map, Function.comp_def, hread]

omit [PyRuntime F] in
theorem forRows_of_reader {β : Type} {csvText : String} {names : List String} {rows : List Csv.Row}
    (h : Csv.dictReader csvText = ⟨.ok (some names), rows, none⟩) (init : β)
    (body : β → Csv.Row → StoreAct F β) : forRows csvText init body = rows.foldlM body init := by
  unfold forRows
  rw [h]
  exact bind_pure _

/-- The loop over a written file goes through the written rows. -/
theorem forRows_dictWriter {β : Type} (hne : fields ≠ []) (rows : List (Settings F)) (init : β)
    (body : β → Csv.Row → StoreAct F β) :
    forRows (Csv.dictWriter fields (rows.map csvCell)) init body =
      (rows.map (readBack fields)).foldlM body init :=
  forRows_of_reader (dictReader_readBack hne rows) init body

omit [PyRuntime F] in
/-- A loop that ends well has gone through a file with a header and without an error, as
every loop over this file does. -/
theorem forRows_of_ok {β γ : Type} {csvText : String} {init result : β}
    {body : β → Csv.Row → StoreAct F β} {s t : ConfigStore F}
    (h : forRows csvText init body s = (.ok result, t)) (init' : γ)
    (body' : γ → Csv.Row → StoreAct F γ) :
    forRows csvText init' body' = (Csv.dictReader csvText).rows.foldlM body' init' := by
  simp only [forRows] at h
  rcases hnames : (Csv.dictReader csvText).fieldnames with e | _ | names
  · simp only [hnames] at h
    cases h
  · simp only [hnames] at h
    cases h
  · simp only [hnames] at h
    obtain ⟨found, u, -, h⟩ := Fallible.bind_eq_ok.mp h
    cases herror : (Csv.dictReader csvText).error with
    | some message =>
      simp only [herror] at h
      cases h
    | none =>
      rw [forRows, hnames]
      simp only [herror]
      exact bind_pure _

omit [PyRuntime F] in
theorem forRows_eq_ok {β : Type} {csvText : String} {init result : β}
    {body : β → Csv.Row → StoreAct F β} {s t : ConfigStore F}
    (h : forRows csvText init body s = (.ok result, t)) :
    (Csv.dictReader csvText).rows.foldlM body init s = (.ok result, t) :=
  forRows_of_ok h init body ▸ h

end ConfigService

end IndustrialGateway
