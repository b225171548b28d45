import MarkdownLayout.Mdast.Reader
import MarkdownLayout.Proofs.Members

set_option autoImplicit false

namespace MarkdownLayout.Mdast

open Json

def absent (name : String) : Json :=
  if name = "ordered" then .bool false
  else if name = "align" then .array []
  else if name = "referenceType" then .string ReferenceForm.shortcut.name
  else .null

def bareName : Json → Json
  | .object [(name, payload)] => if Leniency.nested.payload payload then .string name else .object [(name, payload)]
  | json => json

def plainSpelling (name : String) (json : Json) : Json :=
  if name = "align" then
    match json with
    | .array items => .array (items.map bareName)
    | json => json
  else if name = "referenceType" then bareName json
  else json

def stated (spelled : String → Json → Json) (members : Members) (name : String) : Json :=
  match members.lookup name with
  | none => absent name
  | some json => spelled name json

def Header.kind : Header → Kind
  | .leaf l => l.kind
  | .parent p => p.kind
  | .table _ => .table
  | .tableRow => .tableRow

def Header.attributes : Header → Members
  | .leaf l => l.attributes
  | .parent p => p.attributes
  | .table align => [("align", alignJson align)]
  | .tableRow => []

theorem leaf_kind (l : Leaf) : l.kind.isLeaf = true := by
  cases l <;> rfl

theorem parent_kind (p : Parent) : p.kind.isLeaf = false := by
  cases p with
  | mark m => cases m <;> rfl
  | _ => rfl

theorem header_names (h : Header) : h.attributes.map Prod.fst = h.kind.attributes := by
  cases h with
  | leaf l => cases l <;> rfl
  | parent p =>
      cases p with
      | mark m => cases m <;> rfl
      | _ => rfl
  | table align => rfl
  | tableRow => rfl

theorem kind_fields_distinct (kind : Kind) : ("type" :: kind.fields).Nodup := by
  cases kind <;> decide

section Readers

variable {α : Type}

structure Faithful (read : Json → Option α) (write : α → Json) : Prop where
  exact : ∀ json a, read json = some a ↔ json = write a
  notNull : ∀ a, write a ≠ .null

theorem faithful_string : Faithful string? .string where
  exact := by
    intro json a
    cases json <;> simp [string?]
  notNull := by
    intro a absurdity
    cases absurdity

theorem faithful_bool : Faithful bool? .bool where
  exact := by
    intro json a
    cases json <;> simp [bool?]
  notNull := by
    intro a absurdity
    cases absurdity

theorem nat_below (limit n : Nat) (json : Json) :
    natBelow? limit json = some n ↔ json = .int n ∧ n < limit := by
  constructor
  · intro read
    match json, read with
    | .number (.int value), read =>
        simp only [natBelow?] at read
        split at read
        · rename_i bounds
          obtain rfl := Option.some.inj read
          have back : (value.toNat : Int) = value := Int.toNat_of_nonneg bounds.1
          exact ⟨by rw [back]; rfl, by omega⟩
        · cases read
  · rintro ⟨rfl, below⟩
    have bounds : (0 : Int) ≤ n ∧ (n : Int) < limit := by omega
    simp [natBelow?, Json.int, bounds]

theorem faithful_byte : Faithful byte? fun depth => .int depth.toNat where
  exact := by
    intro json depth
    rw [byte?, Option.map_eq_some_iff]
    constructor
    · rintro ⟨n, read, rfl⟩
      obtain ⟨rfl, below⟩ := (nat_below _ _ _).mp read
      rw [UInt8.toNat_ofNat_of_lt' below]
    · rintro rfl
      exact ⟨depth.toNat, (nat_below _ _ _).mpr ⟨rfl, depth.toNat_lt⟩, UInt8.ofNat_toNat⟩
  notNull := by
    intro a absurdity
    cases absurdity

theorem faithful_word : Faithful word? fun start => .int start.toNat where
  exact := by
    intro json start
    rw [word?, Option.map_eq_some_iff]
    constructor
    · rintro ⟨n, read, rfl⟩
      obtain ⟨rfl, below⟩ := (nat_below _ _ _).mp read
      rw [UInt32.toNat_ofNat_of_lt' below]
    · rintro rfl
      exact ⟨start.toNat, (nat_below _ _ _).mpr ⟨rfl, start.toNat_lt⟩, UInt32.ofNat_toNat⟩
  notNull := by
    intro a absurdity
    cases absurdity

theorem nullable_exact (read : Json → Option α) (write : α → Json) (faithful : Faithful read write)
    (json : Json) (value : Option α) : nullable read json = some value ↔ json = optionJson write value := by
  by_cases null : json = .null
  · subst null
    cases value with
    | none => simp [nullable, optionJson]
    | some a => simpa [nullable, optionJson] using fun same => faithful.notNull a same.symm
  · rw [nullable_given read json null]
    cases value with
    | none => simp [optionJson, null]
    | some a => simp [optionJson, faithful.exact]

abbrev Ordinary (name : String) : Prop := name ≠ "ordered" ∧ name ≠ "align" ∧ name ≠ "referenceType"

theorem absent_ordinary (name : String) (ordinary : Ordinary name) : absent name = .null := by
  obtain ⟨notOrdered, notAlign, notForm⟩ := ordinary
  simp [absent, notOrdered, notAlign, notForm]

theorem plain_ordinary (name : String) (ordinary : Ordinary name) (json : Json) : plainSpelling name json = json := by
  obtain ⟨-, notAlign, notForm⟩ := ordinary
  simp [plainSpelling, notAlign, notForm]

theorem required_stated (read : Json → Option α) (write : α → Json) (faithful : Faithful read write)
    (name : String) (ordinary : Ordinary name) (members : Members) (a : α) :
    required read name members = some a ↔ stated plainSpelling members name = write a := by
  rw [required, stated]
  cases members.lookup name with
  | none => simpa [absent_ordinary name ordinary] using fun same => faithful.notNull a same.symm
  | some json => simpa [plain_ordinary name ordinary] using faithful.exact json a

theorem or_else_stated (default : α) (read : Json → Option α) (write : α → Json) (name : String)
    (missing : ∀ a, default = a ↔ absent name = write a)
    (exact : ∀ json a, read json = some a ↔ plainSpelling name json = write a) (members : Members) (a : α) :
    orElse default read name members = some a ↔ stated plainSpelling members name = write a := by
  rw [orElse, stated]
  cases members.lookup name with
  | none => rw [Option.some.injEq, missing]
  | some json => exact exact json a

theorem optional_stated (read : Json → Option α) (write : α → Json) (faithful : Faithful read write)
    (name : String) (ordinary : Ordinary name) (members : Members) (value : Option α) :
    Json.optional read name members = some value ↔ stated plainSpelling members name = optionJson write value := by
  apply or_else_stated
  · intro value
    rw [absent_ordinary name ordinary]
    cases value with
    | none => simp [optionJson]
    | some a => simpa [optionJson] using fun same => faithful.notNull a same.symm
  · intro json value
    rw [plain_ordinary name ordinary]
    exact nullable_exact read write faithful json value

end Readers

theorem column_named (name : String) (column : Column) : Column.ofName? name = some column ↔ name = column.name := by
  constructor
  · intro named
    unfold Column.ofName? at named
    split at named <;> cases named <;> rfl
  · rintro rfl
    cases column <;> rfl

theorem form_named (name : String) (form : ReferenceForm) :
    ReferenceForm.ofName? name = some form ↔ name = form.name := by
  constructor
  · intro named
    unfold ReferenceForm.ofName? at named
    split at named <;> cases named <;> rfl
  · rintro rfl
    cases form <;> rfl

section Alternatives

variable {α : Type} (ofName? : String → Option α) (toName : α → String)
  (named : ∀ name a, ofName? name = some a ↔ name = toName a)

include named

theorem alternative_exact (json : Json) (a : α) :
    alternative? .nested ofName? json = some a ↔ bareName json = .string (toName a) := by
  match json with
  | .string name => simp [alternative?, bareName, named]
  | .object [(name, payload)] =>
      by_cases plain : Leniency.nested.payload payload = true
      · simp [alternative?, bareName, plain, named]
      · simp [alternative?, bareName, plain]
  | .null | .bool _ | .number _ | .array _ | .object [] | .object (_ :: _ :: _) => simp [alternative?, bareName]

theorem nullable_alternative_exact (json : Json) (value : Option α) :
    nullable (alternative? .nested ofName?) json = some value ↔
      bareName json = optionJson (fun a => .string (toName a)) value := by
  by_cases null : json = .null
  · subst null
    cases value <;> simp [nullable, bareName, optionJson]
  · rw [nullable_given _ json null]
    cases value with
    | none =>
        have notNull : bareName json ≠ .null := by
          unfold bareName
          split
          · split <;> simp
          · exact null
        simp [optionJson, notNull]
    | some a => simp [optionJson, alternative_exact ofName? toName named]

end Alternatives

theorem form_stated (members : Members) (form : ReferenceForm) :
    form? members = some form ↔ stated plainSpelling members "referenceType" = .string form.name := by
  apply or_else_stated
  · intro form
    cases form <;> simp [absent, ReferenceForm.name]
  · intro json form
    exact alternative_exact _ _ form_named json form

theorem ordered_stated (members : Members) (ordered : Bool) :
    orElse false bool? "ordered" members = some ordered ↔ stated plainSpelling members "ordered" = .bool ordered := by
  apply or_else_stated
  · intro ordered
    simp [absent]
  · intro json ordered
    exact faithful_bool.exact json ordered

theorem align_exact (items : List Json) (align : List (Option Column)) :
    items.mapM (nullable (alternative? .nested Column.ofName?)) = some align ↔
      items.map bareName = align.map (optionJson fun column => .string column.name) := by
  induction items generalizing align with
  | nil => cases align <;> simp
  | cons json rest ih =>
      cases align with
      | nil => simp [List.mapM_cons, Option.bind_eq_some_iff]
      | cons column others =>
          simp [List.mapM_cons, Option.bind_eq_some_iff, ih, nullable_alternative_exact _ _ column_named]

theorem align_stated (members : Members) (align : List (Option Column)) :
    align? members = some align ↔ stated plainSpelling members "align" = alignJson align := by
  apply or_else_stated
  · intro align
    cases align <;> simp [absent, alignJson]
  · intro json align
    rw [alignJson]
    cases json with
    | array items => simpa [array?, plainSpelling] using align_exact items align
    | _ => simp [array?, plainSpelling]

section Fields

variable (members : Members) (name : String) (ordinary : Ordinary name)

include ordinary

theorem text_stated (text : String) :
    stated plainSpelling members name = .string text ↔ required string? name members = some text :=
  (required_stated _ _ faithful_string name ordinary members text).symm

theorem optional_text_stated (text : Option String) :
    stated plainSpelling members name = textJson text ↔ Json.optional string? name members = some text :=
  (optional_stated _ _ faithful_string name ordinary members text).symm

theorem optional_flag_stated (flag : Option Bool) :
    stated plainSpelling members name = optionJson .bool flag ↔ Json.optional bool? name members = some flag :=
  (optional_stated _ _ faithful_bool name ordinary members flag).symm

end Fields

theorem depth_stated (members : Members) (depth : UInt8) :
    stated plainSpelling members "depth" = .int depth.toNat ↔ required byte? "depth" members = some depth :=
  (required_stated _ _ faithful_byte "depth" (by decide) members depth).symm

theorem start_stated (members : Members) (start : Option UInt32) :
    stated plainSpelling members "start" = optionJson (fun n => .int n.toNat) start ↔
      Json.optional word? "start" members = some start :=
  (optional_stated _ _ faithful_word "start" (by decide) members start).symm

-- A header is a chain of field readers: it is read exactly when every link reads its field. Fields are not
-- always read in the order in which they are written.
theorem leaf_exact (l : Leaf) (members : Members) :
    l.kind.header? members = some (.leaf l) ↔
      ∀ field ∈ l.attributes, stated plainSpelling members field.1 = field.2 := by
  cases l with
  | thematicBreak | lineBreak => simp [Leaf.kind, Kind.header?, Leaf.attributes]
  | html value | yaml value | toml value | text value | inlineCode value | inlineMath value =>
      simp (disch := decide) [Leaf.kind, Kind.header?, Option.bind_eq_some_iff, Leaf.attributes, text_stated, value?]
  | _ =>
      simp (disch := decide) only [Leaf.kind, Kind.header?, Option.bind_eq_bind, Option.bind_eq_some_iff,
        Leaf.attributes, List.forall_mem_cons, text_stated, optional_text_stated, ← form_stated, value?, info?,
        identifier?, label?, title?, alt?]
      grind

theorem parent_exact (p : Parent) (members : Members) :
    p.kind.header? members = some (.parent p) ↔
      ∀ field ∈ p.attributes, stated plainSpelling members field.1 = field.2 := by
  cases p with
  | paragraph | blockquote | tableCell | footnote => simp [Parent.kind, Kind.header?, Parent.attributes]
  | mark m => cases m <;> simp [Parent.kind, Mark.kind, Kind.header?, Parent.attributes]
  | heading depth =>
      simp [Parent.kind, Kind.header?, Option.bind_eq_some_iff, Parent.attributes, depth_stated]
  | listItem | footnoteDefinition | link =>
      simp (disch := decide) [Parent.kind, Kind.header?, Option.bind_eq_some_iff, Parent.attributes, text_stated,
        optional_text_stated, optional_flag_stated, identifier?, label?, title?, spread?]
  | list ordered start spread =>
      simp (disch := decide) only [Parent.kind, Kind.header?, Option.bind_eq_bind, Option.bind_eq_some_iff,
        Parent.attributes, List.forall_mem_cons, ← ordered_stated, start_stated, optional_flag_stated, spread?]
      grind
  | linkReference identifier label form =>
      simp (disch := decide) only [Parent.kind, Kind.header?, Option.bind_eq_bind, Option.bind_eq_some_iff,
        Parent.attributes, List.forall_mem_cons, text_stated, optional_text_stated, ← form_stated, identifier?, label?]
      grind

theorem header_exact (h : Header) (members : Members) :
    h.kind.header? members = some h ↔ ∀ field ∈ h.attributes, stated plainSpelling members field.1 = field.2 := by
  cases h with
  | leaf l => exact leaf_exact l members
  | parent p => exact parent_exact p members
  | table align => simp [Header.kind, Kind.header?, Option.bind_eq_some_iff, Header.attributes, ← align_stated]
  | tableRow => simp [Header.kind, Kind.header?, Header.attributes]

theorem header_kind (kind : Kind) (members : Members) (h : Header) (read : kind.header? members = some h) :
    h.kind = kind := by
  cases kind <;> simp only [Kind.header?, Option.bind_eq_bind, Option.bind_eq_some_iff, Option.some.injEq] at read <;>
    grind [Header.kind, Leaf.kind, Parent.kind, Mark.kind]

theorem header_agrees (kind : Kind) (a b : Members)
    (same : ∀ name ∈ kind.attributes, a.lookup name = b.lookup name) : kind.header? a = kind.header? b := by
  have carried (x y : Members) (alike : ∀ name ∈ kind.attributes, x.lookup name = y.lookup name) (h : Header)
      (read : kind.header? x = some h) : kind.header? y = some h := by
    obtain rfl := header_kind kind x h read
    apply (header_exact h y).mpr
    intro field present
    have known : field.1 ∈ h.kind.attributes := header_names h ▸ List.mem_map_of_mem present
    rw [← (header_exact h x).mp read field present, stated, stated, alike field.1 known]
  apply Option.ext
  intro h
  exact ⟨carried a b same h, carried b a (fun name known => (same name known).symm) h⟩

theorem header_attributes (kind : Kind) (members : Members) (h : Header) (read : kind.header? members = some h) :
    h.attributes = kind.attributes.map fun name => (name, stated plainSpelling members name) := by
  obtain rfl := header_kind kind members h read
  have given := (header_exact h members).mp read
  calc h.attributes = h.attributes.map fun field => (field.1, stated plainSpelling members field.1) := by
        refine (List.map_id' h.attributes).symm.trans (List.map_congr_left fun field present => ?_)
        rw [given field present]
    _ = (h.attributes.map Prod.fst).map fun name => (name, stated plainSpelling members name) := by
        rw [List.map_map]
        rfl
    _ = h.kind.attributes.map fun name => (name, stated plainSpelling members name) := by rw [header_names]

theorem align_plain (align : List (Option Column)) : plainSpelling "align" (alignJson align) = alignJson align := by
  have bare : ∀ column : Option Column, bareName (optionJson (fun c => .string c.name) column) =
      optionJson (fun c => .string c.name) column := by
    intro column
    cases column <;> rfl
  simp [plainSpelling, alignJson, bare]

theorem header_plain (h : Header) : ∀ field ∈ h.attributes, plainSpelling field.1 field.2 = field.2 := by
  cases h with
  | leaf l => cases l <;> simp [Header.attributes, Leaf.attributes, plainSpelling, bareName]
  | parent p => cases p <;> simp [Header.attributes, Parent.attributes, plainSpelling, bareName]
  | table align => simpa [Header.attributes] using align_plain align
  | tableRow => simp [Header.attributes]

theorem header_read (h : Header) (members : Members)
    (given : ∀ field ∈ h.attributes, members.lookup field.1 = some field.2) : h.kind.header? members = some h := by
  apply (header_exact h members).mpr
  intro field present
  rw [stated, given field present]
  exact header_plain h field present

end MarkdownLayout.Mdast
