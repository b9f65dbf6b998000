import Launchpad.Proofs.Config.Sections
import Launchpad.Proofs.Toml.Distinct
import Mathlib

/-!
A document as an overlay on the defaults. What a section leaves out keeps its default, whether the
section is there or not; what is given counts as it is given. Names without a meaning, and the order
of the names, do not show in the configuration.
-/

namespace Launchpad.Config

open Toml (Value Table)

/-- The key of the section of the archives. -/
def archivesName : String := "artifacts"

/-- The keys of a document that have a meaning. -/
def IsSectionName (key : String) : Prop :=
  key = archivesName ∨ ∃ s : Section, s.name = key

/-- The keys of a section that have a meaning; every name is the name of an archive. -/
def IsKeyOf (name key : String) : Prop :=
  name = archivesName ∨ ∃ f : Field, f.place.name = name ∧ f.key = key

/-- The fields of a section of a document; one that is absent has none. -/
def sectionFields (document : Table) (name : String) : Table :=
  match document.lookup name with
  | some (.table fields) => fields
  | _ => []

def Field.given? (f : Field) (document : Table) : Option Value :=
  (sectionFields document f.place.name).lookup f.key

/-- The known sections of a document are tables. -/
def HasTables (document : Table) : Prop :=
  ∀ name v, IsSectionName name → document.lookup name = some v → ∃ fields, v = .table fields

/-- Everything known in a document has the type that is asked of it. -/
structure IsTyped (document : Table) : Prop where
  tables : HasTables document
  fields : ∀ f v, Field.given? f document = some v → ∃ x, f.kind.Means v x
  archives : ∀ entry ∈ sectionFields document archivesName, ∃ path, Kind.path.Means entry.2 path

/-- A configuration is a document laid over the defaults. -/
structure Overlays (document : Table) (c : Config) : Prop where
  fields : ∀ f : Field, f.kind.Overlays (f.get {}) (f.given? document) (f.get c)
  archives : IsArchives (sectionFields document archivesName) c.artifacts

/-- Something known in a document has another type than is asked of it. -/
inductive IsMistyped (document : Table) : Prop where
  | field {f : Field} {v : Value} (hgiven : f.given? document = some v)
      (htype : ∀ x, ¬ f.kind.Means v x)
  | archive {entry : String × Value} (hentry : entry ∈ sectionFields document archivesName)
      (htype : ∀ path, ¬ Kind.path.Means entry.2 path)

/-- A change to a table that only concerns the order of its keys, or a key without a meaning. -/
inductive Rearranged (isKnown : String → Prop) : Table → Table → Prop where
  | order {fields fields' : Table} (hnames : (fields.map Prod.fst).Nodup)
      (h : fields.Perm fields') : Rearranged isKnown fields fields'
  | unknown {front back : Table} {key : String} {v : Value} (hkey : ¬ isKnown key) :
      Rearranged isKnown (front ++ back) (front ++ (key, v) :: back)

/-- Such a change to a document: among its sections, or inside one of them. -/
inductive Edit : Table → Table → Prop where
  | among {document document' : Table} (h : Rearranged IsSectionName document document') :
      Edit document document'
  | inside {front back fields fields' : Table} {name : String}
      (h : Rearranged (IsKeyOf name) fields fields') :
      Edit (front ++ (name, .table fields) :: back) (front ++ (name, .table fields') :: back)

/-! ### Sections -/

namespace Section

variable {fields fields' : Table}

theorem exists_part (s : Section) (x : s.Part) : ∃ c, s.part c = x := by
  cases s with
  | suite => exact ⟨{ suite := x }, rfl⟩
  | classpath => exact ⟨{ classpath := x }, rfl⟩
  | launcher => exact ⟨{ launcher := x }, rfl⟩
  | unitTest => exact ⟨{ unitTest := x }, rfl⟩
  | deploy => exact ⟨{ deploy := x }, rfl⟩

/-- The fields of a section say all that is read in it. -/
theorem read_congr (s : Section)
    (h : ∀ f : Field, f.place = s → fields.lookup f.key = fields'.lookup f.key) :
    s.read (.table fields) = s.read (.table fields') := by
  refine Option.ext fun x => ?_
  obtain ⟨c, rfl⟩ := s.exists_part x
  rw [read_table_iff, read_table_iff]
  refine forall_congr' fun f => forall_congr' fun hf => ?_
  rw [h f hf]

/-- An empty section is read as the defaults. -/
theorem read_nil (s : Section) : s.read (.table []) = some (s.part {}) :=
  s.read_table_iff.mpr fun _ _ => .absent

end Section

/-- A document is read section by section. -/
theorem ofTable?_eq_some_iff {document : Table} {c : Config} :
    ofTable? document = some c ↔
      (∀ s : Section, field document s.name (s.part {}) s.read = some (s.part c)) ∧
        field document archivesName [] asNamedPaths = some c.artifacts := by
  simp only [ofTable?, bind, Option.bind_eq_some_iff]
  constructor
  · rintro ⟨suite, hsuite, classpath, hclasspath, artifacts, hartifacts, launcher, hlauncher,
      unitTest, hunitTest, deploy, hdeploy, heq⟩
    cases heq
    refine ⟨fun s => ?_, hartifacts⟩
    cases s with
    | suite => exact hsuite
    | classpath => exact hclasspath
    | launcher => exact hlauncher
    | unitTest => exact hunitTest
    | deploy => exact hdeploy
  · rintro ⟨hsections, hartifacts⟩
    exact ⟨_, hsections .suite, _, hsections .classpath, _, hartifacts, _, hsections .launcher,
      _, hsections .unitTest, _, hsections .deploy, rfl⟩

/-- An absent section is as good as one without fields. -/
theorem field_section {document : Table} {name : String} {α : Type} {fallback : α}
    {read : Value → Option α} (hread : read (.table []) = some fallback)
    (htable : ∀ v, document.lookup name = some v → ∃ fields, v = .table fields) :
    field document name fallback read = read (.table (sectionFields document name)) := by
  unfold field sectionFields
  cases hlookup : document.lookup name with
  | none => exact hread.symm
  | some v =>
    obtain ⟨fields, rfl⟩ := htable v hlookup
    rfl

section

variable {document : Table} {c : Config}

theorem names_sectionFields (hdocument : (Value.table document).IsDistinct) (name : String) :
    ((sectionFields document name).map Prod.fst).Nodup := by
  unfold sectionFields
  split
  · rename_i fields hlookup
    cases hdocument with
    | table _ hfields =>
      cases hfields _ (Toml.mem_of_lookup_eq_some hlookup) with
      | table hnames _ => exact hnames
  · exact List.nodup_nil

/-- Where the sections are tables, reading gives the document laid over the defaults. -/
theorem ofTable?_eq_some_iff_overlays (hdocument : (Value.table document).IsDistinct)
    (htables : HasTables document) : ofTable? document = some c ↔ Overlays document c := by
  have hsection (s : Section) : field document s.name (s.part {}) s.read = some (s.part c) ↔
      s.Overlays (sectionFields document s.name) c := by
    rw [field_section s.read_nil fun v => htables _ v (.inr ⟨s, rfl⟩), s.read_table_iff]
  have harchives : field document archivesName [] asNamedPaths = some c.artifacts ↔
      IsArchives (sectionFields document archivesName) c.artifacts := by
    have hnil : asNamedPaths (.table []) = some [] := rfl
    rw [field_section hnil fun v => htables _ v (.inl rfl),
      asNamedPaths_table_iff (names_sectionFields hdocument _)]
  rw [ofTable?_eq_some_iff, harchives]
  simp only [hsection]
  constructor
  · rintro ⟨hfields, harchives⟩
    exact ⟨fun f => hfields f.place f rfl, harchives⟩
  · rintro ⟨hfields, harchives⟩
    refine ⟨?_, harchives⟩
    rintro _ f rfl
    exact hfields f

/-- The configuration with given values in its fields. -/
def ofFields (value : (f : Field) → f.kind.Meaning) (artifacts : List (String × Path)) :
    Config where
  suite := ⟨value .suiteDirectory, value .java, value .primaryBranch⟩
  classpath := ⟨value .launcherJars, value .testJars, value .toolJars⟩
  artifacts := artifacts
  launcher := ⟨value .mainClass, value .legacyMainClass⟩
  unitTest := ⟨value .testMainClass, value .testPackage, value .scriptEnginePackage⟩
  deploy := ⟨value .deployCommand⟩

theorem get_ofFields (value : (f : Field) → f.kind.Meaning) (artifacts : List (String × Path))
    (f : Field) : f.get (ofFields value artifacts) = value f := by
  cases f <;> rfl

theorem exists_overlays (hdocument : (Value.table document).IsDistinct) (h : IsTyped document) :
    ∃ c, Overlays document c := by
  have hvalue (f : Field) : ∃ x, f.kind.Overlays (f.get {}) (f.given? document) x := by
    cases hgiven : f.given? document with
    | none => exact ⟨_, .absent⟩
    | some v =>
      obtain ⟨x, hx⟩ := h.fields f v hgiven
      exact ⟨x, .given hx⟩
  choose value hvalue using hvalue
  obtain ⟨paths, hpaths⟩ := exists_isArchives (names_sectionFields hdocument _) h.archives
  refine ⟨ofFields value paths, fun f => ?_, hpaths⟩
  rw [get_ofFields]
  exact hvalue f

/-- Fields that are given stand in a table. -/
theorem lookup_of_sectionFields_ne_nil {name : String} (h : sectionFields document name ≠ []) :
    document.lookup name = some (.table (sectionFields document name)) := by
  unfold sectionFields at h ⊢
  split at h
  · assumption
  · exact absurd rfl h

theorem field_of_sectionFields_ne_nil {name : String} {α : Type} {fallback : α}
    {read : Value → Option α} (h : sectionFields document name ≠ []) :
    field document name fallback read = read (.table (sectionFields document name)) := by
  unfold field
  rw [lookup_of_sectionFields_ne_nil h]

theorem ofTable?_of_isMistyped (hdocument : (Value.table document).IsDistinct)
    (h : IsMistyped document) : ofTable? document = none := by
  refine Option.eq_none_iff_forall_ne_some.mpr fun c hc => ?_
  obtain ⟨hsections, harchives⟩ := ofTable?_eq_some_iff.mp hc
  cases h with
  | @field f v hgiven htype =>
    have hnonempty := List.ne_nil_of_mem (Toml.mem_of_lookup_eq_some hgiven)
    have hread := hsections f.place
    rw [field_of_sectionFields_ne_nil hnonempty, f.place.read_table_iff] at hread
    have hover : f.kind.Overlays (f.get {}) (some v) (f.get c) := hgiven ▸ hread f rfl
    cases hover with
    | given hmeans => exact htype _ hmeans
  | archive hentry htype =>
    rw [field_of_sectionFields_ne_nil (List.ne_nil_of_mem hentry),
      asNamedPaths_table_iff (names_sectionFields hdocument _)] at harchives
    obtain ⟨path, hpath⟩ := harchives.typed _ hentry
    exact htype path hpath

end

/-! ### Edits -/

/-- A document is known by its known sections. -/
theorem ofTable?_congr {document document' : Table}
    (hsections : ∀ s : Section, field document s.name (s.part {}) s.read =
      field document' s.name (s.part {}) s.read)
    (harchives : field document archivesName [] asNamedPaths =
      field document' archivesName [] asNamedPaths) :
    ofTable? document = ofTable? document' := by
  refine Option.ext fun c => ?_
  rw [ofTable?_eq_some_iff, ofTable?_eq_some_iff, harchives]
  simp only [hsections]

/-- Known keys are found where they were. -/
theorem Rearranged.lookup_eq {isKnown : String → Prop} {fields fields' : Table}
    (h : Rearranged isKnown fields fields') {key : String} (hkey : isKnown key) :
    fields.lookup key = fields'.lookup key := by
  cases h with
  | order hnames h => exact Toml.lookup_eq_of_perm hnames h key
  | @unknown front back other v hother =>
    have hne : (key == other) = false := by
      refine beq_eq_false_iff_ne.mpr ?_
      rintro rfl
      exact hother hkey
    rw [List.lookup_append, List.lookup_append, List.lookup_cons, hne]

/-- What stands in one section matters to that section only. -/
theorem field_inside {front back : Table} {name key : String} {v v' : Value} {α : Type}
    {fallback : α} {read : Value → Option α} (h : key = name → read v = read v') :
    field (front ++ (name, v) :: back) key fallback read =
      field (front ++ (name, v') :: back) key fallback read := by
  unfold field
  rw [List.lookup_append, List.lookup_append, List.lookup_cons, List.lookup_cons]
  cases front.lookup key with
  | some found => rfl
  | none =>
    cases hname : key == name with
    | true => exact h (beq_iff_eq.mp hname)
    | false => rfl

theorem Edit.ofTable?_eq {document document' : Table} (h : Edit document document') :
    ofTable? document = ofTable? document' := by
  cases h with
  | among h =>
    have hfield {name : String} (hname : IsSectionName name) {α : Type} {fallback : α}
        {read : Value → Option α} :
        field document name fallback read = field document' name fallback read := by
      unfold field
      rw [h.lookup_eq hname]
    exact ofTable?_congr (fun s => hfield (.inr ⟨s, rfl⟩)) (hfield (.inl rfl))
  | inside h =>
    refine ofTable?_congr (fun s => field_inside ?_) (field_inside ?_)
    · rintro rfl
      refine s.read_congr fun f hf => h.lookup_eq (.inr ⟨f, ?_, rfl⟩)
      rw [hf]
    · rintro rfl
      cases h with
      | order hnames h => exact asNamedPaths_perm hnames h
      | unknown hkey => exact absurd (.inl rfl) hkey

/-- A document is an overlay on the defaults: known fields count as they are given, the others keep
their defaults, and one field of another type is enough for a refusal. Which other keys there are,
and in which order the keys stand, does not matter. -/
theorem document_overlays_defaults {document : Table}
    (hdocument : (Value.table document).IsDistinct) :
    (IsTyped document → ∃ c, ofTable? document = some c ∧ Overlays document c) ∧
      (IsMistyped document → ofTable? document = none) ∧
      ∀ document', Relation.EqvGen Edit document document' →
        ofTable? document' = ofTable? document := by
  refine ⟨fun h => ?_, ofTable?_of_isMistyped hdocument, fun document' h => ?_⟩
  · obtain ⟨c, hc⟩ := exists_overlays hdocument h
    exact ⟨c, (ofTable?_eq_some_iff_overlays hdocument h.tables).mpr hc, hc⟩
  · -- An edit may give a key without a meaning twice, so nothing is asked of the documents between.
    clear hdocument
    induction h with
    | rel _ _ h => exact h.ofTable?_eq.symm
    | refl => rfl
    | symm _ _ _ ih => exact ih.symm
    | trans _ _ _ _ _ ih ih' => exact ih'.trans ih

/-- A document with a field, two archives out of order, and a key without a meaning. -/
def partlyWritten : Table :=
  [("suite", .table [("java", .string "graal"), ("home", .integer 1)]),
    ("artifacts", .table [("B", .string "b.zip"), ("A", .string "a.zip")])]

/-- The same without the key that has no meaning, and with the archives in front. -/
def writtenOtherwise : Table :=
  [("artifacts", .table [("B", .string "b.zip"), ("A", .string "a.zip")]),
    ("suite", .table [("java", .string "graal")])]

theorem isTyped_partlyWritten : IsTyped partlyWritten where
  tables name v _ hv := by
    have hmem := Toml.mem_of_lookup_eq_some hv
    simp only [partlyWritten, List.mem_cons, Prod.mk.injEq, List.not_mem_nil, or_false] at hmem
    rcases hmem with ⟨-, rfl⟩ | ⟨-, rfl⟩ <;> exact ⟨_, rfl⟩
  fields f v hv := by
    cases f with
    | java =>
      cases hv
      exact ⟨_, .text _⟩
    | _ => cases hv
  archives entry hentry := by
    have hmem : entry ∈ [("B", Value.string "b.zip"), ("A", .string "a.zip")] := hentry
    simp only [List.mem_cons, List.not_mem_nil, or_false] at hmem
    rcases hmem with rfl | rfl <;> exact ⟨_, .path _⟩

theorem not_isKeyOf_home : ¬ IsKeyOf "suite" "home" := by
  rintro (hname | ⟨f, -, hkey⟩)
  · exact absurd hname (by decide)
  · cases f <;> exact absurd hkey (by decide)

theorem eqvGen_partlyWritten : Relation.EqvGen Edit partlyWritten writtenOtherwise := by
  have hmoved : Edit partlyWritten
      [("artifacts", .table [("B", .string "b.zip"), ("A", .string "a.zip")]),
        ("suite", .table [("java", .string "graal"), ("home", .integer 1)])] :=
    .among (.order (by decide) (.swap _ _ _))
  have hadded : Edit writtenOtherwise
      [("artifacts", .table [("B", .string "b.zip"), ("A", .string "a.zip")]),
        ("suite", .table [("java", .string "graal"), ("home", .integer 1)])] :=
    @Edit.inside [_] [] _ _ _ (@Rearranged.unknown _ [_] [] _ _ not_isKeyOf_home)
  exact .trans _ _ _ (.rel _ _ hmoved) (.symm _ _ (.rel _ _ hadded))

theorem partly_written_overlays_defaults :
    Toml.parse? "[suite]\njava = 'graal'\nhome = 1\n[artifacts]\nB = 'b.zip'\nA = 'a.zip'\n" =
        some partlyWritten ∧
      (∃ c, ofTable? partlyWritten = some c ∧ Overlays partlyWritten c) ∧
      ofTable? writtenOtherwise = ofTable? partlyWritten ∧
      ofTable? [("suite", .table [("java", .integer 1)])] = none := by
  have hparse : Toml.parse?
      "[suite]\njava = 'graal'\nhome = 1\n[artifacts]\nB = 'b.zip'\nA = 'a.zip'\n" =
      some partlyWritten := by cbv
  have hwrong : Toml.parse? "suite.java = 1\n" =
      some [("suite", .table [("java", .integer 1)])] := by cbv
  obtain ⟨hread, -, hedit⟩ := document_overlays_defaults (Toml.isDistinct_of_parse? hparse)
  refine ⟨hparse, hread isTyped_partlyWritten, hedit _ eqvGen_partlyWritten, ?_⟩
  have hmistyped := (document_overlays_defaults (Toml.isDistinct_of_parse? hwrong)).2.1
  refine hmistyped (.field (rfl : Field.java.given? _ = some (.integer 1)) fun x hmeans => ?_)
  cases hmeans

end Launchpad.Config
