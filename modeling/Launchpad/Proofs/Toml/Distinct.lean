import Launchpad.Toml.Document
import Mathlib.Data.List.Nodup

/-!
The names of fields in a document. A name that is given twice breaks the format, so in what is read
from a document no table has two fields of one name, however deep it lies.
-/

namespace Launchpad.Toml

/-- No table in a value has two fields of one name. -/
inductive Value.IsDistinct : Value → Prop where
  | string (text : String) : IsDistinct (.string text)
  | integer (number : Int) : IsDistinct (.integer number)
  | float (text : String) : IsDistinct (.float text)
  | boolean (value : Bool) : IsDistinct (.boolean value)
  | moment (moment : Moment) : IsDistinct (.moment moment)
  | array {items : List Value} (hitems : ∀ item ∈ items, IsDistinct item) :
      IsDistinct (.array items)
  | table {fields : Table} (hnames : (fields.map Prod.fst).Nodup)
      (hfields : ∀ field ∈ fields, IsDistinct field.2) : IsDistinct (.table fields)

/-- No table in an unfinished document has two fields of one name. -/
inductive Draft.IsDistinct : Draft → Prop where
  | value {v : Value} (h : v.IsDistinct) : IsDistinct (.value v)
  | table {opened : Opened} {fields : DraftFields} (hnames : (fields.map Prod.fst).Nodup)
      (hfields : ∀ field ∈ fields, IsDistinct field.2) : IsDistinct (.table opened fields)
  | tables {elements : List DraftFields}
      (hnames : ∀ fields ∈ elements, (fields.map Prod.fst).Nodup)
      (hfields : ∀ fields ∈ elements, ∀ field ∈ fields, IsDistinct field.2) :
      IsDistinct (.tables elements)

/-- The same of the fields of an unfinished table. -/
structure DraftFields.IsDistinct (fields : DraftFields) : Prop where
  names : (fields.map Prod.fst).Nodup
  fields : ∀ field ∈ fields, field.2.IsDistinct

theorem mem_of_lookup_eq_some {α : Type} {fields : List (String × α)} {key : String} {x : α}
    (h : fields.lookup key = some x) : (key, x) ∈ fields := by
  obtain ⟨front, back, rfl, -⟩ := List.lookup_eq_some_iff.mp h
  exact List.mem_append_right front List.mem_cons_self

theorem lookup_eq_some_iff_mem {α : Type} {fields : List (String × α)}
    (hnames : (fields.map Prod.fst).Nodup) {key : String} {x : α} :
    fields.lookup key = some x ↔ (key, x) ∈ fields := by
  refine ⟨mem_of_lookup_eq_some, fun hmem => ?_⟩
  obtain ⟨front, back, rfl⟩ := List.append_of_mem hmem
  refine List.lookup_eq_some_iff.mpr ⟨front, back, rfl, fun field hfield => ?_⟩
  rw [List.map_append, List.nodup_append] at hnames
  exact bne_iff_ne.mpr (hnames.2.2 field.1 (List.mem_map_of_mem hfield) key List.mem_cons_self).symm

/-- In which order fields stand does not show when one asks for them by name. -/
theorem lookup_eq_of_perm {α : Type} {fields fields' : List (String × α)}
    (hnames : (fields.map Prod.fst).Nodup) (h : fields.Perm fields') (key : String) :
    fields.lookup key = fields'.lookup key := by
  have hnames' : (fields'.map Prod.fst).Nodup := (h.map Prod.fst).nodup_iff.mp hnames
  refine Option.ext fun x => ?_
  rw [lookup_eq_some_iff_mem hnames, lookup_eq_some_iff_mem hnames', h.mem_iff]

theorem not_mem_of_lookup_eq_none {α : Type} {fields : List (String × α)} {key : String}
    (h : fields.lookup key = none) : key ∉ fields.map Prod.fst := by
  intro hmem
  obtain ⟨⟨name, x⟩, hfield, rfl⟩ := List.mem_map.mp hmem
  simpa using List.lookup_eq_none_iff.mp h (name, x) hfield

/-! ### Additions to an unfinished document -/

namespace DraftFields.IsDistinct

variable {fields : DraftFields} {key : String} {d : Draft}

theorem nil : DraftFields.IsDistinct [] := ⟨List.nodup_nil, List.forall_mem_nil _⟩

theorem draft (h : fields.IsDistinct) (opened : Opened) : (Draft.table opened fields).IsDistinct :=
  .table h.names h.fields

theorem of_table {opened : Opened} (h : (Draft.table opened fields).IsDistinct) :
    fields.IsDistinct := by
  cases h with
  | table hnames hfields => exact ⟨hnames, hfields⟩

theorem tables {elements : List DraftFields} (h : ∀ fields ∈ elements, fields.IsDistinct) :
    (Draft.tables elements).IsDistinct :=
  .tables (fun fields hmem => (h fields hmem).names) fun fields hmem => (h fields hmem).fields

theorem of_tables {elements : List DraftFields} (h : (Draft.tables elements).IsDistinct) :
    ∀ fields ∈ elements, fields.IsDistinct := by
  cases h with
  | tables hnames hfields => exact fun fields hmem => ⟨hnames fields hmem, hfields fields hmem⟩

theorem concat_elements {elements : List DraftFields} {last : DraftFields}
    (h : ∀ fields ∈ elements, fields.IsDistinct) (hlast : last.IsDistinct) :
    (Draft.tables (elements ++ [last])).IsDistinct := by
  refine tables fun fields hmem => ?_
  rcases List.mem_append.mp hmem with hold | hnew
  · exact h fields hold
  · rw [List.mem_singleton.mp hnew]
    exact hlast

theorem of_lookup (h : fields.IsDistinct) (hkey : fields.lookup key = some d) : d.IsDistinct :=
  h.fields _ (mem_of_lookup_eq_some hkey)

theorem concat (h : fields.IsDistinct) (hkey : fields.lookup key = none) (hd : d.IsDistinct) :
    DraftFields.IsDistinct (fields ++ [(key, d)]) := by
  constructor
  · rw [List.map_append, List.map_singleton, ← List.concat_eq_append]
    exact h.names.concat (not_mem_of_lookup_eq_none hkey)
  · intro field hfield
    rcases List.mem_append.mp hfield with hfield | hfield
    · exact h.fields field hfield
    · rw [List.mem_singleton.mp hfield]
      exact hd

theorem replace (h : fields.IsDistinct) (key : String) (hd : d.IsDistinct) :
    (DraftFields.replace fields key d).IsDistinct := by
  constructor
  · have hnames : (DraftFields.replace fields key d).map Prod.fst = fields.map Prod.fst := by
      rw [DraftFields.replace, List.map_map]
      refine List.map_congr_left fun field _ => ?_
      simp only [Function.comp_apply]
      split <;> rfl
    rw [hnames]
    exact h.names
  · intro field hfield
    obtain ⟨old, hold, rfl⟩ := List.mem_map.mp hfield
    simp only
    split
    · exact hd
    · exact h.fields old hold

/-- What changes one table for the better changes the table at the end of a path so, with all the
tables on the way. -/
theorem changeAt {dotted : Bool} {change : Opened → DraftFields → Option DraftFields}
    (hchange : ∀ {opened fields fields'}, DraftFields.IsDistinct fields →
      change opened fields = some fields' → fields'.IsDistinct)
    {path : List String} {opened : Opened} {fields' : DraftFields} (h : fields.IsDistinct)
    (hpath : DraftFields.changeAt dotted change path opened fields = some fields') :
    fields'.IsDistinct := by
  induction path generalizing opened fields fields' with
  | nil => exact hchange h hpath
  | cons key rest ih =>
    rw [DraftFields.changeAt] at hpath
    split at hpath
    · rename_i hkey
      obtain ⟨inner, hinner, rfl⟩ := Option.map_eq_some_iff.mp hpath
      exact h.concat hkey ((ih .nil hinner).draft _)
    · cases hpath
    · rename_i elements hkey
      split at hpath
      · cases hpath
      · rename_i last hlast
        obtain ⟨inner, hinner, rfl⟩ := Option.map_eq_some_iff.mp hpath
        have hold := of_tables (h.of_lookup hkey)
        have hnew : inner.IsDistinct := ih (hold last (List.mem_of_getLast? hlast)) hinner
        exact h.replace key
          (concat_elements (fun fields hmem => hold fields (List.dropLast_subset _ hmem)) hnew)
    · rename_i inner hkey
      split at hpath
      · cases hpath
      · obtain ⟨inner', hinner, rfl⟩ := Option.map_eq_some_iff.mp hpath
        exact h.replace key ((ih (of_table (h.of_lookup hkey)) hinner).draft _)

theorem openTable {path : List String} {fields' : DraftFields} (h : fields.IsDistinct)
    (hopen : DraftFields.openTable path fields = some fields') : fields'.IsDistinct := by
  unfold DraftFields.openTable at hopen
  split at hopen
  · cases hopen
  · refine changeAt (fun {_ fields _} h hchange => ?_) h hopen
    split at hchange
    · rename_i hkey
      cases hchange
      exact h.concat hkey (nil.draft _)
    · rename_i hkey
      cases hchange
      exact h.replace _ ((of_table (h.of_lookup hkey)).draft _)
    · cases hchange

theorem openElement {path : List String} {fields' : DraftFields} (h : fields.IsDistinct)
    (hopen : DraftFields.openElement path fields = some fields') : fields'.IsDistinct := by
  unfold DraftFields.openElement at hopen
  split at hopen
  · cases hopen
  · refine changeAt (fun {_ fields _} h hchange => ?_) h hopen
    split at hchange
    · rename_i hkey
      cases hchange
      exact h.concat hkey (tables fun fields hmem => List.mem_singleton.mp hmem ▸ nil)
    · rename_i elements hkey
      cases hchange
      exact h.replace _ (concat_elements (of_tables (h.of_lookup hkey)) nil)
    · cases hchange

theorem assign {header path : List String} {v : Value} {fields' : DraftFields}
    (h : fields.IsDistinct) (hv : v.IsDistinct)
    (hassign : DraftFields.assign header path v fields = some fields') : fields'.IsDistinct := by
  unfold DraftFields.assign at hassign
  split at hassign
  · cases hassign
  · refine changeAt (fun {_ _ _} h hchange => ?_) h hassign
    refine changeAt (fun {_ fields _} h hchange => ?_) h hchange
    split at hchange
    · cases hchange
    · split at hchange
      · cases hchange
      · rename_i hkey
        cases hchange
        exact h.concat (Option.not_isSome_iff_eq_none.mp hkey) (.value hv)

end DraftFields.IsDistinct

/-! ### The finished document -/

theorem finishFields_eq_map (fields : DraftFields) :
    finishFields fields = fields.map fun field => (field.1, field.2.finish) := by
  induction fields with
  | nil => rfl
  | cons field rest ih =>
    obtain ⟨key, d⟩ := field
    rw [finishFields, ih]
    rfl

theorem finishElements_eq_map (elements : List DraftFields) :
    finishElements elements = elements.map fun fields => .table (finishFields fields) := by
  induction elements with
  | nil => rfl
  | cons fields rest ih =>
    rw [finishElements, ih]
    rfl

/-- The finished table has the names that the unfinished one had. -/
theorem isDistinct_finishFields {fields : DraftFields} (hnames : (fields.map Prod.fst).Nodup)
    (hfields : ∀ field ∈ fields, field.2.finish.IsDistinct) :
    (Value.table (finishFields fields)).IsDistinct := by
  rw [finishFields_eq_map]
  refine .table ?_ fun field hfield => ?_
  · rw [List.map_map]
    exact hnames
  · obtain ⟨old, hold, rfl⟩ := List.mem_map.mp hfield
    exact hfields old hold

theorem Draft.IsDistinct.finish {d : Draft} (h : d.IsDistinct) : d.finish.IsDistinct := by
  induction h with
  | value h =>
    rw [Draft.finish]
    exact h
  | table hnames hfields ih =>
    rw [Draft.finish]
    exact isDistinct_finishFields hnames ih
  | tables hnames hfields ih =>
    rw [Draft.finish, finishElements_eq_map]
    refine .array fun item hitem => ?_
    obtain ⟨fields, hmem, rfl⟩ := List.mem_map.mp hitem
    exact isDistinct_finishFields (hnames fields hmem) (ih fields hmem)

/-! ### Reading -/

/-- A bare word spells no table. -/
theorem isDistinct_of_readWord {cs rest : List Char} {v : Value}
    (h : readWord cs = some (v, rest)) : v.IsDistinct := by
  unfold readWord at h
  simp only at h
  repeat' split at h
  all_goals cases h
  all_goals constructor

/-- What the reader was given to go on with: the fields so far. -/
def Task.IsDistinct : Task → Prop
  | .fields soFar => soFar.IsDistinct
  | _ => True

theorem isDistinct_of_readTask {fuel depth : Nat} (task : Task) {cs rest : List Char} {v : Value}
    (htask : task.IsDistinct) (h : readTask fuel depth task cs = some (v, rest)) :
    v.IsDistinct := by
  -- The three tasks call each other with less fuel, so one induction serves them all. Only the
  -- fields of an inline table carry something along that has to be distinct already.
  induction fuel generalizing depth task cs rest v with
  | zero => simp [readTask] at h
  | succ fuel ih =>
    cases task with
    | value =>
      rw [readTask.eq_def] at h
      simp only at h
      split at h
      · obtain ⟨_, -, heq⟩ := Option.map_eq_some_iff.mp h
        cases heq
        exact .string _
      · obtain ⟨_, -, heq⟩ := Option.map_eq_some_iff.mp h
        cases heq
        exact .string _
      · split at h
        · cases h
        · exact ih .items trivial h
      · split at h
        · split at h
          · cases h
          · exact ih (.fields []) DraftFields.IsDistinct.nil h
        · exact isDistinct_of_readWord h
      · cases h
    | items =>
      rw [readTask.eq_def] at h
      obtain ⟨lines, -, h⟩ := Option.bind_eq_some_iff.mp h
      split at h
      · cases h
        exact .array (List.forall_mem_nil _)
      · obtain ⟨⟨item, afterItem⟩, hitem, h⟩ := Option.bind_eq_some_iff.mp h
        have hfirst : item.IsDistinct := ih .value trivial hitem
        obtain ⟨behind, -, h⟩ := Option.bind_eq_some_iff.mp h
        split at h
        · cases h
          exact .array fun other hother => List.mem_singleton.mp hother ▸ hfirst
        · obtain ⟨⟨items, afterItems⟩, hitems, h⟩ := Option.bind_eq_some_iff.mp h
          split at h
          · rename_i others _ heq
            cases heq
            cases h
            cases ih .items trivial hitems with
            | array hothers => exact .array (List.forall_mem_cons.mpr ⟨hfirst, hothers⟩)
          · cases h
        · cases h
    | fields soFar =>
      rw [readTask.eq_def] at h
      obtain ⟨lines, -, h⟩ := Option.bind_eq_some_iff.mp h
      split at h
      · cases h
      · split at h
        · cases h
          exact (DraftFields.IsDistinct.draft htask _).finish
        · obtain ⟨⟨path, afterKey⟩, -, h⟩ := Option.bind_eq_some_iff.mp h
          obtain ⟨equals, -, h⟩ := Option.bind_eq_some_iff.mp h
          split at h
          · obtain ⟨start, -, h⟩ := Option.bind_eq_some_iff.mp h
            obtain ⟨⟨x, afterValue⟩, hx, h⟩ := Option.bind_eq_some_iff.mp h
            obtain ⟨fields, hfields, h⟩ := Option.bind_eq_some_iff.mp h
            have hnew : fields.IsDistinct :=
              DraftFields.IsDistinct.assign htask (ih .value trivial hx) hfields
            obtain ⟨behind, -, h⟩ := Option.bind_eq_some_iff.mp h
            split at h
            · exact ih (.fields fields) hnew h
            · split at h
              · cases h
                exact (hnew.draft _).finish
              · cases h
            · cases h
          · cases h

theorem isDistinct_of_readStatement {progress progress' : Progress} {cs rest : List Char}
    (h : progress.fields.IsDistinct) (hread : readStatement progress cs = some (progress', rest)) :
    progress'.fields.IsDistinct := by
  unfold readStatement at hread
  split at hread
  · obtain ⟨⟨path, afterKey⟩, -, hread⟩ := Option.bind_eq_some_iff.mp hread
    dsimp only at hread
    split at hread
    · obtain ⟨fields, hfields, hread⟩ := Option.bind_eq_some_iff.mp hread
      cases hread
      exact h.openElement hfields
    · cases hread
  · obtain ⟨⟨path, afterKey⟩, -, hread⟩ := Option.bind_eq_some_iff.mp hread
    dsimp only at hread
    split at hread
    · obtain ⟨fields, hfields, hread⟩ := Option.bind_eq_some_iff.mp hread
      cases hread
      exact h.openTable hfields
    · cases hread
  · obtain ⟨⟨path, afterKey⟩, -, hread⟩ := Option.bind_eq_some_iff.mp hread
    dsimp only at hread
    split at hread
    · obtain ⟨⟨v, afterValue⟩, hv, hread⟩ := Option.bind_eq_some_iff.mp hread
      obtain ⟨fields, hfields, hread⟩ := Option.bind_eq_some_iff.mp hread
      cases hread
      exact h.assign (isDistinct_of_readTask .value trivial hv) hfields
    · cases hread

theorem isDistinct_of_readLinesFuel {fuel : Nat} {progress progress' : Progress}
    {cs : List Char} (h : progress.fields.IsDistinct)
    (hread : readLinesFuel fuel progress cs = some progress') : progress'.fields.IsDistinct := by
  induction fuel generalizing progress cs with
  | zero => cases hread
  | succ fuel ih =>
    rw [readLinesFuel] at hread
    obtain ⟨lines, -, hread⟩ := Option.bind_eq_some_iff.mp hread
    split at hread
    · cases hread
      exact h
    · obtain ⟨⟨between, afterStatement⟩, hstatement, hread⟩ := Option.bind_eq_some_iff.mp hread
      obtain ⟨rest, -, hread⟩ := Option.bind_eq_some_iff.mp hread
      exact ih (isDistinct_of_readStatement h hstatement) hread

/-- No table of a document has two fields of one name. -/
theorem isDistinct_of_parse? {text : String} {document : Table} (h : parse? text = some document) :
    (Value.table document).IsDistinct := by
  unfold parse? at h
  obtain ⟨progress, hread, rfl⟩ := Option.map_eq_some_iff.mp h
  have hfields : progress.fields.IsDistinct := isDistinct_of_readLinesFuel .nil hread
  exact isDistinct_finishFields hfields.names fun field hfield =>
    (hfields.fields field hfield).finish

end Launchpad.Toml
