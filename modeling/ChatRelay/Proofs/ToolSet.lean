import ChatRelay.Proofs.Result
import ChatRelay.Proofs.Validation
import ChatRelay.ToolSet

/-!
# Which tools are sent

The tools of a file are chosen in one pass that drops what is switched off or not allowed and then
keeps the first declaration of each name. Since the configuration goes by names, it allows all the
declarations of a name that are switched on or none of them. So the declaration that is kept is the
first one that is switched on (`ToolSet.choose_selects`), and one that is switched off neither stands
in for a later one nor is reported as its duplicate.

What the file says about each declaration is `ToolDeclaration.Declares`; a name that breaks the rule
for names does not get past the check. What is sent for a declaration is `ToolDeclaration.Sent`.
-/

namespace ChatRelay

open Json (lookup)

/-! ## Declarations in a file -/

namespace ToolDeclaration

/-- What the members of a declaration say. One that does not say whether it is switched on is, and one
without a schema takes an object without properties. -/
structure Declares (ms : List (Text × Yaml.Value)) (d : ToolDeclaration) : Prop where
  name : (lookup "name" ms).map shape = some (.str d.name)
  isName : isName d.name = true
  description : (lookup "description" ms).map shape = d.description.map .str
  enabled : ∃ switch : Option Bool,
    (lookup "enabled" ms).map shape = switch.map .bool ∧ switch.getD true = d.enabled
  schema : ∃ given : Option (List (Text × Yaml.Value)),
    (lookup "input_schema" ms).map shape = given.map .obj ∧
      ((given.map (Json.without Check.reservedKey)).map Yaml.Value.membersToJson).getD defaultSchema
        = d.inputSchema

/-- A declaration is switched off only where it says so. -/
theorem Declares.enabled_eq_false_iff {ms : List (Text × Yaml.Value)} {d : ToolDeclaration}
    (h : d.Declares ms) :
    d.enabled = false ↔ (lookup "enabled" ms).map shape = some (.bool false) := by
  obtain ⟨switch, hswitch, henabled⟩ := h.enabled
  rw [hswitch, ← henabled]
  cases switch <;> simp

/-- What is sent for a declaration: its name, its schema, and its description if that says anything. -/
inductive Sent (d : ToolDeclaration) : Tool → Prop
  | described {t : Text} : d.description = some t → t ≠ [] →
      Sent d ⟨.obj [("name", .str d.name), ("input_schema", .obj d.inputSchema), ("description", .str t)]⟩
  | undescribed : (∀ t, d.description = some t → t = []) →
      Sent d ⟨.obj [("name", .str d.name), ("input_schema", .obj d.inputSchema)]⟩

theorem sent_toTool (d : ToolDeclaration) : d.Sent d.toTool := by
  obtain ⟨name, description, enabled, schema⟩ := d
  cases description with
  | none => exact .undescribed nofun
  | some t =>
      cases t with
      | nil => exact .undescribed fun t ht => (Option.some.inj ht).symm
      | cons u t => exact .described rfl (List.cons_ne_nil u t)

theorem Sent.name? {d : ToolDeclaration} {t : Tool} (h : d.Sent t) : t.name? = some (.str d.name) := by
  cases h <;> rfl

open Check Checked

variable {path : List PathStep} {v : Option Yaml.Value}

theorem ne_nil_of_isName {t : Text} (h : isName t = true) : t ≠ [] := by
  rintro rfl
  cases h

theorem toolName_eq_accept_iff {t : Text} :
    toolName path v = .accept t ↔ v.map shape = some (.str t) ∧ isName t = true := by
  constructor
  · intro h
    unfold toolName at h
    dsimp only at h
    split at h
    case h_1 s hs =>
      obtain ⟨hvalue, hissues⟩ := Checked.mk.inj h
      cases hvalue
      obtain ⟨hnone, hrule⟩ := List.append_eq_nil_iff.mp hissues
      have haccept : nonEmptyString path v = .accept t := congrArg₂ Checked.mk hs hnone
      refine ⟨(nonEmptyString_eq_accept_iff.mp haccept).1, ?_⟩
      by_contra hbad
      rw [if_neg hbad] at hrule
      cases hrule
    case h_2 hnone =>
      rw [h] at hnone
      cases hnone
  · rintro ⟨hv, hname⟩
    have haccept : nonEmptyString path v = .accept t :=
      nonEmptyString_eq_accept_iff.mpr ⟨hv, ne_nil_of_isName hname⟩
    unfold toolName
    rw [haccept, accept]
    simp [hname]

theorem check_eq_accept_iff {d : ToolDeclaration} :
    check path v = .accept d ↔ ∃ ms, v.map shape = some (.obj ms) ∧ d.Declares ms := by
  refine object_eq_accept_iff.trans (exists_congr fun ms => and_congr_right fun _ => ?_)
  constructor
  · intro hfields
    obtain ⟨_, schema, hswitch, hschema, rfl⟩ := seq_eq_accept_iff.mp hfields
    obtain ⟨_, enabled, hdescribed, henabled, rfl⟩ := seq_eq_accept_iff.mp hswitch
    obtain ⟨_, description, hnamed, hdescription, rfl⟩ := seq_eq_accept_iff.mp hdescribed
    obtain ⟨name, hname, rfl⟩ := functor_eq_accept_iff.mp hnamed
    obtain ⟨hname, hrule⟩ := toolName_eq_accept_iff.mp hname
    obtain ⟨given, hgiven, rfl⟩ := optional_record_eq_accept_iff.mp hschema
    exact ⟨hname, hrule, optional_string_eq_accept_iff.mp hdescription,
      ⟨enabled, optional_boolean_eq_accept_iff.mp henabled, rfl⟩, ⟨given, hgiven, rfl⟩⟩
  · rintro ⟨hname, hrule, hdescription, ⟨switch, hswitch, henabled⟩, ⟨given, hgiven, hschema⟩⟩
    obtain ⟨name, description, enabled, schema⟩ := d
    cases henabled
    cases hschema
    refine seq_eq_accept_iff.mpr ⟨_, _, seq_eq_accept_iff.mpr ⟨_, _, seq_eq_accept_iff.mpr
      ⟨_, _, functor_eq_accept_iff.mpr ⟨_, toolName_eq_accept_iff.mpr ⟨hname, hrule⟩, rfl⟩,
        optional_string_eq_accept_iff.mpr hdescription, rfl⟩,
      optional_boolean_eq_accept_iff.mpr hswitch, rfl⟩,
      optional_record_eq_accept_iff.mpr ⟨given, hgiven, rfl⟩, rfl⟩

end ToolDeclaration

namespace ToolSet

/-- The declarations that a value holds under `tools`. It may have no such member, and an empty file
has the value null. -/
inductive Declared : Yaml.Value → List ToolDeclaration → Prop
  | empty : Declared .null []
  | absent {value : Yaml.Value} {ms : List (Text × Yaml.Value)} : shape value = .obj ms →
      lookup "tools" ms = none → Declared value []
  | listed {value : Yaml.Value} {ms : List (Text × Yaml.Value)} {items : List Yaml.Value}
      {ds : List ToolDeclaration} : shape value = .obj ms →
      (lookup "tools" ms).map shape = some (.arr items) →
      List.Forall₂ (fun item d => ∃ members, shape item = .obj members ∧ d.Declares members) items ds →
      Declared value ds

open Check Checked

theorem array_check_eq_accept_iff {path : List PathStep} {v : Option Yaml.Value}
    {ds : List ToolDeclaration} :
    array ToolDeclaration.check path v = .accept ds ↔ ∃ items, v.map shape = some (.arr items) ∧
      List.Forall₂ (fun item d => ∃ members, shape item = .obj members ∧ d.Declares members)
        items ds :=
  array_eq_accept_iff fun _ _ _ => ToolDeclaration.check_eq_accept_iff.trans
    (exists_congr fun _ => and_congr_left fun _ => Option.some_inj)

theorem checkFile_eq_accept_iff {value : Yaml.Value} {ds : List ToolDeclaration}
    (hnull : value ≠ .null) :
    ToolDeclaration.checkFile [] (some value) = .accept ds ↔ Declared value ds := by
  constructor
  · intro h
    obtain ⟨ms, hvalue, hfields⟩ := object_eq_accept_iff.mp h
    obtain ⟨listed, hlisted, rfl⟩ := functor_eq_accept_iff.mp hfields
    have hshape : shape value = .obj ms := Option.some.inj hvalue
    rcases optional_eq_accept_iff.mp hlisted with ⟨hnone, rfl⟩ | ⟨w, ds, hw, hds, rfl⟩
    · exact .absent hshape hnone
    · obtain ⟨items, hitems, hall⟩ := array_check_eq_accept_iff.mp hds
      exact .listed hshape (hw ▸ hitems) hall
  · intro h
    cases h with
    | empty => exact absurd rfl hnull
    | absent hshape hnone =>
        refine object_eq_accept_iff.mpr ⟨_, congrArg some hshape, functor_eq_accept_iff.mpr
          ⟨none, optional_eq_accept_iff.mpr (.inl ⟨hnone, rfl⟩), rfl⟩⟩
    | listed hshape hitems hall =>
        obtain ⟨w, hw, hitems⟩ := Option.map_eq_some_iff.mp hitems
        refine object_eq_accept_iff.mpr ⟨_, congrArg some hshape, functor_eq_accept_iff.mpr
          ⟨some ds, optional_eq_accept_iff.mpr (.inr ⟨w, ds, hw, ?_, rfl⟩), rfl⟩⟩
        exact array_check_eq_accept_iff.mpr ⟨_, congrArg some hitems, hall⟩

theorem declared_null_iff {ds : List ToolDeclaration} :
    Declared .null ds ↔ Declared (.obj []) ds := by
  constructor
  · intro h
    cases h with
    | empty => exact .absent rfl rfl
    | absent hshape => cases hshape
    | listed hshape => cases hshape
  · intro h
    cases h with
    | absent hshape hnone => exact .empty
    | listed hshape hitems =>
        cases hshape
        cases hitems

/-- A file has declarations exactly if its value holds them. -/
theorem declarations_eq_ok_iff {text : Text} {ds : List ToolDeclaration} :
    declarations text = .ok ds ↔ ∃ value, Yaml.parse text = .ok value ∧ Declared value ds := by
  unfold declarations
  cases Yaml.parse text with
  | error e => simp
  | ok value =>
      simp only [Except.ok.injEq, exists_eq_left']
      cases value with
      | null =>
          rw [declared_null_iff, ← checkFile_eq_accept_iff (by simp), ← toExcept_eq_ok_iff]
          dsimp only
          cases (ToolDeclaration.checkFile [] (some (.obj []))).toExcept <;> simp
      | _ =>
          rw [← checkFile_eq_accept_iff (by simp), ← toExcept_eq_ok_iff]
          dsimp only
          cases (ToolDeclaration.checkFile [] _).toExcept <;> simp

/-! ## The pass over the declarations -/

section Pass

variable {seen : List Text} {d : ToolDeclaration} {ds : List ToolDeclaration}

theorem distinct_of_mem (h : d.name ∈ seen) :
    distinct seen (d :: ds) = ((distinct seen ds).1, d.name :: (distinct seen ds).2) := by
  rw [distinct, if_pos (by simpa using h)]

theorem distinct_of_not_mem (h : d.name ∉ seen) : distinct seen (d :: ds)
    = (d :: (distinct (d.name :: seen) ds).1, (distinct (d.name :: seen) ds).2) := by
  rw [distinct, if_neg (by simpa using h)]

/-- What a pass keeps and reports, where some names have been seen before. -/
structure Passed (seen : List Text) (ds kept : List ToolDeclaration) (repeated : List Text) :
    Prop where
  inOrder : kept.Sublist ds
  nodup : (kept.map (·.name)).Nodup
  names : ∀ n, n ∈ kept.map (·.name) ↔ n ∉ seen ∧ n ∈ ds.map (·.name)
  first : ∀ d ∈ kept, ds.find? (·.name = d.name) = some d
  reported : repeated.length + kept.length = ds.length

theorem Passed.repeat {kept : List ToolDeclaration} {repeated : List Text} (hd : d.name ∈ seen)
    (h : Passed seen ds kept repeated) : Passed seen (d :: ds) kept (d.name :: repeated) where
  inOrder := h.inOrder.cons d
  nodup := h.nodup
  names n := by
    rw [h.names, List.map_cons, List.mem_cons]
    constructor
    · exact fun ⟨hn, hmem⟩ => ⟨hn, .inr hmem⟩
    · rintro ⟨hn, rfl | hmem⟩
      · exact absurd hd hn
      · exact ⟨hn, hmem⟩
  first e he := by
    obtain ⟨hunseen, -⟩ := (h.names e.name).mp (List.mem_map_of_mem he)
    have hne : d.name ≠ e.name := fun heq => hunseen (heq ▸ hd)
    rw [List.find?_cons_of_neg (by simpa using hne)]
    exact h.first e he
  reported := by
    have := h.reported
    simp only [List.length_cons]
    omega

theorem Passed.keep {kept : List ToolDeclaration} {repeated : List Text} (hd : d.name ∉ seen)
    (h : Passed (d.name :: seen) ds kept repeated) : Passed seen (d :: ds) (d :: kept) repeated where
  inOrder := h.inOrder.cons_cons d
  nodup := by
    rw [List.map_cons, List.nodup_cons]
    refine ⟨fun hmem => ?_, h.nodup⟩
    exact ((h.names d.name).mp hmem).1 List.mem_cons_self
  names n := by
    rw [List.map_cons, List.mem_cons, List.map_cons, List.mem_cons, h.names, List.mem_cons, not_or]
    constructor
    · rintro (rfl | ⟨⟨-, hn⟩, hmem⟩)
      · exact ⟨hd, .inl rfl⟩
      · exact ⟨hn, .inr hmem⟩
    · rintro ⟨hn, heq | hmem⟩
      · exact .inl heq
      · by_cases heq : n = d.name
        · exact .inl heq
        · exact .inr ⟨⟨heq, hn⟩, hmem⟩
  first e he := by
    rcases List.mem_cons.mp he with rfl | he
    · exact List.find?_cons_of_pos (by simp)
    · obtain ⟨hunseen, -⟩ := (h.names e.name).mp (List.mem_map_of_mem he)
      have hne : d.name ≠ e.name := fun heq => hunseen (heq ▸ List.mem_cons_self)
      rw [List.find?_cons_of_neg (by simpa using hne)]
      exact h.first e he
  reported := by
    have := h.reported
    simp only [List.length_cons]
    omega

theorem passed_distinct (seen : List Text) (ds : List ToolDeclaration) :
    Passed seen ds (distinct seen ds).1 (distinct seen ds).2 := by
  induction ds generalizing seen with
  | nil => exact ⟨List.Sublist.slnil, List.nodup_nil, by simp [distinct], by simp [distinct], rfl⟩
  | cons d ds ih =>
      by_cases hd : d.name ∈ seen
      · rw [distinct_of_mem hd]
        exact (ih seen).repeat hd
      · rw [distinct_of_not_mem hd]
        exact (ih (d.name :: seen)).keep hd

end Pass

/-! ## What is chosen -/

/-- The configuration allows a name: it enables it, or no name at all, and does not disable it. -/
def Allowed (choice : ToolChoice) (n : Text) : Prop :=
  (choice.enabled = [] ∨ n ∈ choice.enabled) ∧ n ∉ choice.disabled

instance (choice : ToolChoice) (n : Text) : Decidable (Allowed choice n) :=
  inferInstanceAs (Decidable (_ ∧ _))

/-- A declaration that could be sent. -/
def Selectable (choice : ToolChoice) (d : ToolDeclaration) : Prop :=
  d.enabled = true ∧ Allowed choice d.name

instance (choice : ToolChoice) (d : ToolDeclaration) : Decidable (Selectable choice d) :=
  inferInstanceAs (Decidable (_ ∧ _))

/-- The units that names are made of. -/
def nameUnits : Text := "abcdefghijklmnopqrstuvwxyzABCDEFGHIJKLMNOPQRSTUVWXYZ0123456789_-"

/-- The warning about a name that is declared again. -/
def repetition (n : Text) : Log.Entry :=
  .warn "Duplicate tool declaration, keeping the first one" [("name", some (.str n))]

/-- What is chosen from declarations. The tools stand for the chosen declarations one by one, so the tool
with a name is the first declaration of the name that is switched on. -/
structure Selects (choice : ToolChoice) (ds : List ToolDeclaration) (set : ToolSet) : Prop where
  sent : List.Forall₂ ToolDeclaration.Sent set.chosen set.tools
  entry : ∀ n, ∀ t ∈ set.tools, t.name? = some (.str n) →
    ∃ d, ds.find? (fun e => e.name = n && e.enabled) = some d ∧ d.Sent t
  nodup : (set.chosen.map (·.name)).Nodup
  inOrder : set.chosen.Sublist ds
  present : ∀ n, n ∈ set.chosen.map (·.name) ↔
    (∃ d ∈ ds, d.name = n ∧ d.enabled = true) ∧ Allowed choice n
  first : ∀ d ∈ set.chosen, ds.find? (fun e => e.name = d.name && e.enabled) = some d
  enabledTools : names set.chosen = .arr (set.tools.map fun t => t.name?.getD .null)
  warnings : ∃ repeated : List Text,
    (set.log.filter fun entry => entry.level = .warn) = repeated.map repetition ∧
      repeated.length + set.chosen.length = (ds.filter (Selectable choice)).length
  wellNamed : ∀ d ∈ set.chosen,
    1 ≤ d.name.length ∧ d.name.length ≤ 64 ∧ ∀ u ∈ d.name, u ∈ nameUnits

theorem allows_iff {choice : ToolChoice} {d : ToolDeclaration} :
    choice.allows d = true ↔ Selectable choice d := by
  simp [ToolChoice.allows, Selectable, Allowed, and_assoc]

theorem lt_of_isNameUnit {u : CodeUnit} (h : ToolDeclaration.isNameUnit u = true) : u < 123 := by
  simp only [ToolDeclaration.isNameUnit, Bool.or_eq_true, Bool.and_eq_true, decide_eq_true_eq,
    beq_iff_eq, UInt16.le_iff_toNat_le, UInt16.reduceToNat] at h
  show u.toNat < 123
  rcases h with (((⟨-, h⟩ | ⟨-, h⟩) | ⟨-, h⟩) | rfl) | rfl
  · omega
  · omega
  · omega
  · decide
  · decide

theorem mem_nameUnits {u : CodeUnit} (h : ToolDeclaration.isNameUnit u = true) : u ∈ nameUnits := by
  have hall : ∀ n < 123, ToolDeclaration.isNameUnit (UInt16.ofNat n) = true →
      UInt16.ofNat n ∈ nameUnits := by
    decide +kernel
  have hu := hall u.toNat (UInt16.lt_iff_toNat_lt.mp (lt_of_isNameUnit h))
  rw [UInt16.ofNat_toNat] at hu
  exact hu h

theorem wellNamed_of_isName {t : Text} (h : ToolDeclaration.isName t = true) :
    1 ≤ t.length ∧ t.length ≤ 64 ∧ ∀ u ∈ t, u ∈ nameUnits := by
  simp only [ToolDeclaration.isName, Bool.and_eq_true, decide_eq_true_eq, List.all_eq_true] at h
  obtain ⟨⟨hleast, hmost⟩, hunits⟩ := h
  exact ⟨hleast, hmost, fun u hu => mem_nameUnits (hunits u hu)⟩

theorem Declared.isName {value : Yaml.Value} {ds : List ToolDeclaration} (h : Declared value ds) :
    ∀ d ∈ ds, ToolDeclaration.isName d.name = true := by
  cases h with
  | @listed _ _ items _ _ hitems hall =>
      clear hitems
      induction hall with
      | nil => exact List.forall_mem_nil _
      | cons hitem _ ih =>
          obtain ⟨members, -, hdeclares⟩ := hitem
          exact List.forall_mem_cons.mpr ⟨hdeclares.isName, ih⟩
  | _ => exact List.forall_mem_nil _

theorem choose_selects {path : Text} {choice : ToolChoice} {ds : List ToolDeclaration}
    (hnames : ∀ d ∈ ds, ToolDeclaration.isName d.name = true) :
    Selects choice ds (choose path choice ds) := by
  have hfilter : ds.filter choice.allows = ds.filter (Selectable choice) := by
    refine List.filter_congr fun d _ => ?_
    rw [Bool.eq_iff_iff, allows_iff, decide_eq_true_eq]
  obtain ⟨hsub, hnodup, hpresent, hfirst, hlength⟩ :=
    passed_distinct [] (ds.filter (Selectable choice))
  have hkept : ∀ d ∈ (distinct [] (ds.filter (Selectable choice))).1, d ∈ ds ∧ Selectable choice d := by
    intro d hd
    simpa using hsub.subset hd
  -- All declarations of a chosen name are allowed, so only the switch tells which are selectable.
  have hswitched : ∀ d ∈ (distinct [] (ds.filter (Selectable choice))).1,
      ds.find? (fun e => e.name = d.name && e.enabled) = some d := by
    intro d hd
    obtain ⟨-, -, hallowed⟩ := hkept d hd
    rw [← hfirst d hd, List.find?_filter]
    congr 1
    funext e
    rw [Bool.eq_iff_iff]
    simp only [Bool.and_eq_true, decide_eq_true_eq]
    constructor
    · rintro ⟨hname, henabled⟩
      exact ⟨⟨henabled, hname ▸ hallowed⟩, hname⟩
    · rintro ⟨⟨henabled, -⟩, hname⟩
      exact ⟨hname, henabled⟩
  unfold choose
  rw [hfilter]
  constructor
  case sent =>
    rw [tools, List.forall₂_map_right_iff, List.forall₂_same]
    exact fun d _ => d.sent_toTool
  case entry =>
    intro n t ht hname
    obtain ⟨d, hd, rfl⟩ := List.mem_map.mp ht
    rw [d.sent_toTool.name?] at hname
    cases hname
    exact ⟨d, hswitched d hd, d.sent_toTool⟩
  case nodup => exact hnodup
  case inOrder => exact hsub.trans List.filter_sublist
  case present =>
    intro n
    rw [hpresent, List.mem_map]
    constructor
    · rintro ⟨-, d, hd, rfl⟩
      obtain ⟨hmem, hselectable⟩ := List.mem_filter.mp hd
      obtain ⟨henabled, hallowed⟩ := of_decide_eq_true hselectable
      exact ⟨⟨d, hmem, rfl, henabled⟩, hallowed⟩
    · rintro ⟨⟨d, hmem, rfl, henabled⟩, hallowed⟩
      exact ⟨List.not_mem_nil, d,
        List.mem_filter.mpr ⟨hmem, decide_eq_true ⟨henabled, hallowed⟩⟩, rfl⟩
  case first => exact hswitched
  case enabledTools => simp [names, tools, (ToolDeclaration.sent_toTool _).name?]
  case warnings =>
    refine ⟨(distinct [] (ds.filter (Selectable choice))).2, ?_, hlength⟩
    rw [List.filter_append, List.filter_eq_self.mpr, List.filter_cons_of_neg, List.filter_nil,
      List.append_nil]
    · rfl
    · exact Bool.false_ne_true
    · intro entry hentry
      obtain ⟨n, -, rfl⟩ := List.mem_map.mp hentry
      rfl
  case wellNamed => exact fun d hd => wellNamed_of_isName (hnames d (hkept d hd).1)

/-! ## The value of a plain document

Without anchors and tags a node has the value that it shows; only a key in which maps are merged
would be an exception, and the current version of the language has none.
-/

namespace Plain

open Yaml

/-- A word without quotes. -/
def word (t : Text) : Node := .scalar {} ⟨t, .ofText t, .plain⟩

variable {sources : Sources} {scope : Scope} {anchored : List (Anchor × Node)} {fuel : Nat}

theorem resolve_word (t : Text) : resolve sources (fuel + 1) (word t) = pure (.str t) := by
  rw [word, resolve]
  rfl

theorem resolve_bool (written : Text) (b : Bool) :
    resolve sources (fuel + 1) (.scalar {} ⟨written, { value := .bool b }, .plain⟩) =
      pure (.bool b) := by
  rw [resolve]
  rfl

theorem resolve_map (entries : List Yaml.Entry) :
    resolve sources (fuel + 1) (.map {} false entries) =
      .obj <$> resolveMembers sources fuel [] entries := by
  rw [resolve]
  rfl

theorem resolve_list (items : List Node) :
    resolve sources (fuel + 1) (.list {} false items) = .arr <$> resolveItems sources fuel items := by
  rw [resolve]
  rfl

theorem resolveItems_eq_mapM (items : List Node) :
    resolveItems sources fuel items = items.mapM (resolve sources fuel) := by
  induction items with
  | nil => rw [resolveItems, List.mapM_nil]
  | cons x xs ih => rw [resolveItems, List.mapM_cons, ih]

theorem resolveMembers_nil (ms : List (Text × Value)) :
    resolveMembers sources fuel ms [] = pure ms := by
  rw [resolveMembers]

theorem resolveMembers_word (hversion : scope.version = .current) (ms : List (Text × Value))
    (key : Text) (node : Node) (entries : List Yaml.Entry) :
    resolveMembers ⟨scope, anchored⟩ (fuel + 1) ms (.full (word key) node :: entries) =
      (resolve ⟨scope, anchored⟩ (fuel + 1) node >>= fun value =>
        resolveMembers ⟨scope, anchored⟩ (fuel + 1) (Json.insert ms key value) entries) := by
  have hmerge : isMergeKey scope.version (word key) = false := by
    rw [hversion]
    rfl
  rw [resolveMembers]
  simp only [Entry.key, resolve_word, hmerge]
  rfl

end Plain

/-- The tools of a file are chosen from the declarations that it holds, and it can be loaded exactly if
these are valid. -/
theorem load_selects {text : Text} {value : Yaml.Value} (hvalue : Yaml.parse text = .ok value)
    (path : Text) (choice : ToolChoice) :
    (∀ ds, Declared value ds →
      ∃ set, load path (some text) choice = .ok set ∧ Selects choice ds set) ∧
    (∀ set, load path (some text) choice = .ok set →
      ∃ ds, Declared value ds ∧ Selects choice ds set) := by
  constructor
  · intro ds hds
    have hdeclarations : declarations text = .ok ds :=
      declarations_eq_ok_iff.mpr ⟨value, hvalue, hds⟩
    refine ⟨choose path choice ds, ?_, choose_selects hds.isName⟩
    rw [load, hdeclarations]
    rfl
  · intro set hset
    obtain ⟨ds, hdeclarations, rfl⟩ := Except.map_eq_ok.mp hset
    obtain ⟨value', hvalue', hds⟩ := declarations_eq_ok_iff.mp hdeclarations
    rw [hvalue] at hvalue'
    cases hvalue'
    exact ⟨ds, hds, choose_selects hds.isName⟩

/-- A file with two declarations of one tool, of which the first is switched off. -/
def switchedFile : Text :=
  "tools: [\x7bname: a\x7d, \x7bname: b, enabled: false\x7d, \x7bname: b, description: on\x7d]"

/-- The value of that file. -/
def switchedValue : Yaml.Value :=
  .obj [("tools", .arr [.obj [("name", .str "a")],
    .obj [("name", .str "b"), ("enabled", .bool false)],
    .obj [("name", .str "b"), ("description", .str "on")]])]

/-- The declarations in that file. -/
def switchedDeclarations : List ToolDeclaration :=
  [⟨"a", none, true, ToolDeclaration.defaultSchema⟩,
    ⟨"b", none, false, ToolDeclaration.defaultSchema⟩,
    ⟨"b", some (Text.ofString "on"), true, ToolDeclaration.defaultSchema⟩]

section Switched

open Plain Yaml

theorem pieces_switchedFile : Yaml.pieces switchedFile =
    [.content, .plain "tools", .other ":", .other " ", .other "[",
      .other "\x7b", .plain "name", .other ":", .other " ", .plain "a", .other "\x7d", .other ",",
      .other " ", .other "\x7b", .plain "name", .other ":", .other " ", .plain "b", .other ",",
      .other " ", .plain "enabled", .other ":", .other " ", .plain "false", .other "\x7d", .other ",",
      .other " ", .other "\x7b", .plain "name", .other ":", .other " ", .plain "b", .other ",",
      .other " ", .plain "description", .other ":", .other " ", .plain "on", .other "\x7d",
      .other "]"] := by
  decide +kernel

set_option maxRecDepth 2000 in
theorem stream?_switchedFile : Yaml.stream? switchedFile = some
    { document := some ({}, .map {} false [.full (word "tools") (.list {} false
        [.map {} false [.full (word "name") (word "a")],
          .map {} false [.full (word "name") (word "b"),
            .full (word "enabled") (.scalar {} ⟨"false", { value := .bool false }, .plain⟩)],
          .map {} false [.full (word "name") (word "b"),
            .full (word "description") (word "on")]])]) } := by
  rw [Yaml.stream?, Yaml.lexemes?, pieces_switchedFile]
  rfl

theorem parse_switchedFile : Yaml.parse switchedFile = .ok switchedValue := by
  rw [Yaml.parse, stream?_switchedFile]
  dsimp only
  rw [Node.value, show 3 * Node.size _ + 3 = 51 from rfl]
  simp only [resolve_map, resolve_list, resolveItems_eq_mapM, resolveMembers_word, resolve_word,
    resolveMembers_nil, resolve_bool, List.mapM_cons, List.mapM_nil]
  rfl

theorem declared_switchedFile : Declared switchedValue switchedDeclarations := by
  refine .listed rfl rfl (.cons ⟨_, rfl, ?_⟩ (.cons ⟨_, rfl, ?_⟩ (.cons ⟨_, rfl, ?_⟩ .nil)))
  · exact ⟨rfl, by decide, rfl, ⟨none, rfl, rfl⟩, ⟨none, rfl, rfl⟩⟩
  · exact ⟨rfl, by decide, rfl, ⟨some false, rfl, rfl⟩, ⟨none, rfl, rfl⟩⟩
  · exact ⟨rfl, by decide, rfl, ⟨none, rfl, rfl⟩, ⟨none, rfl, rfl⟩⟩

theorem load_selects_switched :
    Yaml.parse switchedFile = .ok switchedValue ∧ Declared switchedValue switchedDeclarations ∧
      ∃ set, load "tools.yaml" (some switchedFile) ⟨[], ["a"]⟩ = .ok set ∧
        Selects ⟨[], ["a"]⟩ switchedDeclarations set ∧
        set.tools = [⟨.obj [("name", .str "b"), ("input_schema", .obj ToolDeclaration.defaultSchema),
          ("description", .str "on")]⟩] := by
  obtain ⟨set, hload, hselects⟩ :=
    (load_selects parse_switchedFile "tools.yaml" ⟨[], ["a"]⟩).1 _ declared_switchedFile
  refine ⟨parse_switchedFile, declared_switchedFile, set, hload, hselects, ?_⟩
  have hdeclarations : declarations switchedFile = .ok switchedDeclarations :=
    declarations_eq_ok_iff.mpr ⟨_, parse_switchedFile, declared_switchedFile⟩
  rw [load, hdeclarations] at hload
  cases hload
  rfl

end Switched

end ToolSet

end ChatRelay
