import ChatRelay.Proofs.Event.NormalForm
import ChatRelay.Reply.Format

/-!
# Whole answers

A call that does not stream is answered by one JSON object. `Response.Answers` says member by member
which objects stand for which responses, whatever else they hold: texts, a list of blocks, why the
message ended, and counts. A check accepts exactly these (`Response.check_eq_accept_iff`).

A response that was read so is an answer when it is written (`Response.Answers.again`), and its
objects are in order (`Response.Answers.settled`), so its text is read as the same value: what the
reading drops or fills in, the reserved key of a tool input and a missing stop sequence, is dropped
or filled in once.
-/

namespace ChatRelay

open Json (lookup Settled)

/-! ## What an answer says -/

/-- A value is a block of an answer. The input of a tool call may be any object; its reserved key is
left out. -/
inductive Block.Answers : Json → Block → Prop
  | text {ms : Json.Members} {t : Text} : lookup "type" ms = some (.str "text") →
      lookup "text" ms = some (.str t) → Answers (.obj ms) (.text t)
  | toolUse {ms input : Json.Members} {id name : Text} :
      lookup "type" ms = some (.str "tool_use") → lookup "id" ms = some (.str id) →
      lookup "name" ms = some (.str name) → lookup "input" ms = some (.obj input) →
      Answers (.obj ms) (.toolUse ⟨id, name, Json.without Check.reservedKey input⟩)

/-- Token counts, both of them given. -/
inductive Usage.Answers (ms : Json.Members) (key : Text) : Usage → Prop
  | mk {counts : Json.Members} {input output : Number} : lookup key ms = some (.obj counts) →
      CountAt counts "input_tokens" (some input) → CountAt counts "output_tokens" (some output) →
      Answers ms key ⟨.value input, .value output⟩

/-- The members of an object are a whole answer. -/
inductive Response.Answers (ms : Json.Members) : Response → Prop
  | mk {id type role model : Text} {values : List Json} {content : List Block}
      {reason sequence : Option Text} {usage : Usage} : lookup "id" ms = some (.str id) →
      lookup "type" ms = some (.str type) → lookup "role" ms = some (.str role) →
      lookup "model" ms = some (.str model) → lookup "content" ms = some (.arr values) →
      List.Forall₂ Block.Answers values content →
      lookup "stop_reason" ms = some (Json.ofText? reason) →
      TextOrNullAt ms "stop_sequence" sequence → Usage.Answers ms "usage" usage →
      Answers ms ⟨id, .value type, role, model, content, .orNull reason, .orNull sequence, usage⟩

/-! ## What the check accepts -/

open Check Checked

variable {path : List PathStep} {ms : Json.Members} {key : Text} {v : Json}

theorem field_string_eq_accept_iff {t : Text} :
    field string path ms key = .accept t ↔ lookup key ms = some (.str t) :=
  ⟨string_eq_accept, field_string⟩

theorem field_textOrNull_eq_accept_iff {t : Option Text} :
    field (optionalOrNull string) path ms key = .accept t ↔ TextOrNullAt ms key t :=
  ⟨.of_field, field_textOrNull⟩

theorem field_record_eq_accept_iff {input : Json.Members} :
    field record path ms key = .accept input ↔
      ∃ given, lookup key ms = some (.obj given) ∧ Json.without reservedKey given = input := by
  refine record_eq_accept_iff.trans (exists_congr fun given => and_congr_left fun _ => ?_)
  exact Json.map_shape_eq (w := .obj given)

theorem Block.check_eq_accept_iff {b : Block} :
    Block.check path (some v) = .accept b ↔ Block.Answers v b := by
  constructor
  · intro h
    obtain ⟨ms, hv, hfields⟩ := object_eq_accept h
    cases hv
    split at hfields
    case h_1 type htype =>
      split at hfields
      case isTrue htext =>
        subst htext
        obtain ⟨t, ht, rfl⟩ := functor_eq_accept_iff.mp hfields
        exact .text htype (field_string_eq_accept_iff.mp ht)
      split at hfields
      case isTrue htool =>
        subst htool
        obtain ⟨_, _, hnamed, hrecord, rfl⟩ := seq_eq_accept_iff.mp hfields
        obtain ⟨_, name, hids, hname, rfl⟩ := seq_eq_accept_iff.mp hnamed
        obtain ⟨id, hid, rfl⟩ := functor_eq_accept_iff.mp hids
        obtain ⟨input, hinput, rfl⟩ := field_record_eq_accept_iff.mp hrecord
        exact .toolUse htype (field_string_eq_accept_iff.mp hid)
          (field_string_eq_accept_iff.mp hname) hinput
      case isFalse => exact absurd hfields reject_ne_accept
    case h_2 => exact absurd hfields reject_ne_accept
  · intro h
    cases h with
    | text htype ht =>
        rw [check, object_obj, htype]
        dsimp only
        rw [if_pos rfl, field_string ht]
        rfl
    | toolUse htype hid hname hinput =>
        rw [check, object_obj, htype]
        dsimp only
        rw [if_neg (by decide), if_pos rfl, field_string hid, field_string hname,
          field_record_eq_accept_iff.mpr ⟨_, hinput, rfl⟩]
        rfl

theorem field_usageWhole_eq_accept_iff {u : Usage} :
    field Usage.checkWhole path ms key = .accept u ↔ Usage.Answers ms key u := by
  constructor
  · intro h
    rw [field, Usage.checkWhole] at h
    obtain ⟨counts, hcounts, hfields⟩ := object_eq_accept h
    obtain ⟨_, output, hmake, houtput, rfl⟩ := seq_eq_accept_iff.mp hfields
    obtain ⟨input, hinput, rfl⟩ := functor_eq_accept_iff.mp hmake
    exact .mk hcounts (.of_field hinput) (.of_field houtput)
  · intro h
    cases h with
    | mk hcounts hinput houtput =>
        rw [field, hcounts, Usage.checkWhole, object_obj, field_count hinput, field_count houtput]
        rfl

theorem field_nullableString_eq_accept_iff {t : Option Text} :
    field (nullable string) path ms key = .accept t ↔ lookup key ms = some (Json.ofText? t) := by
  rw [field, nullable_eq_accept_iff]
  constructor
  · rintro (⟨hnull, rfl⟩ | ⟨-, t, ht, rfl⟩)
    · exact Json.map_shape_eq.mp hnull
    · exact string_eq_accept ht
  · intro h
    rw [h]
    cases t with
    | none => exact .inl ⟨rfl, rfl⟩
    | some t =>
        refine .inr ⟨fun hnull => ?_, t, rfl, rfl⟩
        cases hnull

theorem field_content_eq_accept_iff {content : List Block} :
    field (array Block.check) path ms key = .accept content ↔
      ∃ values, lookup key ms = some (.arr values) ∧
        List.Forall₂ Block.Answers values content := by
  refine (array_eq_accept_iff fun _ _ _ => Block.check_eq_accept_iff).trans
    (exists_congr fun values => and_congr_left fun _ => ?_)
  exact Json.map_shape_eq (w := .arr values)

/-- The check accepts exactly the answers. -/
theorem Response.check_eq_accept_iff {r : Response} :
    Response.check path (some v) = .accept r ↔ ∃ ms, v = .obj ms ∧ Response.Answers ms r := by
  constructor
  · intro h
    obtain ⟨ms, hv, hfields⟩ := object_eq_accept h
    cases hv
    -- The fields are taken off from the last one on.
    obtain ⟨_, usage, hsequences, husage, rfl⟩ := seq_eq_accept_iff.mp hfields
    obtain ⟨_, _, hreasons, hlater, rfl⟩ := seq_eq_accept_iff.mp hsequences
    obtain ⟨sequence, hsequence, rfl⟩ := functor_eq_accept_iff.mp hlater
    obtain ⟨_, _, hcontents, hwhy, rfl⟩ := seq_eq_accept_iff.mp hreasons
    obtain ⟨reason, hreason, rfl⟩ := functor_eq_accept_iff.mp hwhy
    obtain ⟨_, content, hmodels, hcontent, rfl⟩ := seq_eq_accept_iff.mp hcontents
    obtain ⟨values, hvalues, hblocks⟩ := field_content_eq_accept_iff.mp hcontent
    obtain ⟨_, model, hroles, hmodel, rfl⟩ := seq_eq_accept_iff.mp hmodels
    obtain ⟨_, role, htypes, hrole, rfl⟩ := seq_eq_accept_iff.mp hroles
    obtain ⟨_, _, hids, hkind, rfl⟩ := seq_eq_accept_iff.mp htypes
    obtain ⟨type, htype, rfl⟩ := functor_eq_accept_iff.mp hkind
    obtain ⟨id, hid, rfl⟩ := functor_eq_accept_iff.mp hids
    exact ⟨ms, rfl, .mk (field_string_eq_accept_iff.mp hid) (field_string_eq_accept_iff.mp htype)
      (field_string_eq_accept_iff.mp hrole) (field_string_eq_accept_iff.mp hmodel) hvalues hblocks
      (field_nullableString_eq_accept_iff.mp hreason)
      (field_textOrNull_eq_accept_iff.mp hsequence) (field_usageWhole_eq_accept_iff.mp husage)⟩
  · rintro ⟨ms, rfl, h⟩
    cases h with
    | mk hid htype hrole hmodel hvalues hblocks hreason hsequence husage =>
        rw [check, object_obj, field_string hid, field_string htype, field_string hrole,
          field_string hmodel, field_content_eq_accept_iff.mpr ⟨_, hvalues, hblocks⟩,
          field_nullableString_eq_accept_iff.mpr hreason, field_textOrNull hsequence,
          field_usageWhole_eq_accept_iff.mpr husage]
        rfl

/-! ## Writing an answer -/

theorem Block.Answers.again {b : Block} (h : Block.Answers v b) : Block.Answers b.toJson b := by
  cases h with
  | text => exact .text rfl rfl
  | @toolUse ms input id name _ _ _ _ =>
      have hagain : Block.Answers (Block.toolUse ⟨id, name, Json.without reservedKey input⟩).toJson
          (.toolUse ⟨id, name, Json.without reservedKey (Json.without reservedKey input)⟩) :=
        .toolUse rfl rfl rfl rfl
      rwa [Json.without_without] at hagain

theorem Usage.Answers.again {u : Usage} (h : Usage.Answers ms key u) {ms' : Json.Members}
    (hu : lookup key ms' = some u.toJson) : Usage.Answers ms' key u := by
  cases h with
  | mk _ hinput houtput =>
      exact .mk hu (.of_isCount hinput.isCount rfl) (.of_isCount houtput.isCount rfl)

/-- Each block of an answer has been read from one of the values. -/
theorem exists_answers {values : List Json} {content : List Block}
    (h : List.Forall₂ Block.Answers values content) :
    ∀ b ∈ content, ∃ v ∈ values, Block.Answers v b := by
  induction h with
  | nil => exact List.forall_mem_nil _
  | cons hblock _ ih =>
      refine List.forall_mem_cons.mpr ⟨⟨_, List.mem_cons_self, hblock⟩, fun b hb => ?_⟩
      obtain ⟨v, hv, hanswers⟩ := ih b hb
      exact ⟨v, List.mem_cons_of_mem _ hv, hanswers⟩

/-- A response that was read off an answer is an answer when it is written. -/
theorem Response.Answers.again {r : Response} (h : Response.Answers ms r) :
    ∃ ms', r.toJson = .obj ms' ∧ Response.Answers ms' r := by
  cases h with
  | @mk _ _ _ _ _ content reason sequence _ _ _ _ _ _ hblocks _ _ husage =>
      have hblocks : List.Forall₂ Block.Answers (content.map Block.toJson) content := by
        refine List.forall₂_map_left_iff.mpr (List.forall₂_same.mpr fun b hb => ?_)
        obtain ⟨v, -, hv⟩ := exists_answers hblocks b hb
        exact hv.again
      rw [Response.toJson, Field.toJson?_orNull, Field.toJson?_orNull]
      exact ⟨_, rfl, .mk rfl rfl rfl rfl rfl hblocks rfl (.of_ofText? rfl) (husage.again rfl)⟩

theorem Block.Answers.settled {b : Block} (h : Block.Answers v b) (hv : Settled v) :
    Settled b.toJson := by
  cases h with
  | text => exact Json.settled_object ["type", "text"] rfl (by decide) (by simp [Settled.str])
  | toolUse _ _ _ hinput =>
      have hinput := (hv.lookup hinput).without reservedKey
      exact Json.settled_object ["type", "id", "name", "input"] rfl (by decide)
        (by simp [Settled.str, hinput])

theorem Response.Answers.settled {r : Response} (h : Response.Answers ms r)
    (hms : Settled (.obj ms)) : Settled r.toJson := by
  cases h with
  | @mk id type role model values content reason sequence usage _ _ _ _ hvalues hblocks _ _ _ =>
      have hitems : ∀ v ∈ values, Settled v := by
        cases hms.lookup hvalues with
        | arr hitems => exact hitems
      have hcontent : Settled (.arr (content.map Block.toJson)) := by
        refine .arr (List.forall_mem_map.mpr fun b hb => ?_)
        obtain ⟨v, hv, hanswers⟩ := exists_answers hblocks b hb
        exact hanswers.settled (hitems v hv)
      refine Json.settled_object ["id", "type", "role", "model", "content", "stop_reason",
        "stop_sequence", "usage"] rfl (by decide) ?_
      simp only [List.forall_mem_cons, List.not_mem_nil, false_imp_iff, implies_true, and_true,
        Option.mem_def, Option.some.injEq, forall_eq']
      exact ⟨.str, Field.settled_toJson? (fun _ => .str) _, .str, .str, hcontent,
        Field.settled_toJson? (fun _ => .str) _, Field.settled_toJson? (fun _ => .str) _,
        usage.settled_toJson⟩

end ChatRelay
