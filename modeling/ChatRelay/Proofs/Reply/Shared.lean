import ChatRelay.Proofs.Reply.InPlace
import ChatRelay.Reply.Shared
import Mathlib.Data.List.Nodup

/-!
# References that are good

A step on a shared draft either takes place or is refused, and `Sharing.on_make` says once what that means:
`Made` lists what the steps do that take place, `Refuses` when and why the others are refused. A
refused step leaves everything as it was.

What makes the references good is an invariant of all steps (`SharedDraft.Sound`): the content has no
block twice, the table has no key and no block twice, and what the table holds stands in the content.
So text that is added by way of the table changes one place of the content (`Sound.view_modify`), and
a step does to a shared draft what it does to a draft that finds its texts by their places
(`on_make_draft`).
-/

namespace ChatRelay

/-! ## One step -/

namespace SharedDraft

variable {d d' : SharedDraft} {step : DraftStep} {f : Failure}

/-- The steps that a draft refuses, and why. -/
inductive Refuses (d : SharedDraft) : DraftStep → Failure → Prop
  | openText (index : Number) (text : Text) : (d.refAt? index.plainZero).isSome = true →
      Refuses d (.openText index text) (.violation (.blockAlreadyOpen index))
  | appendText (index : Number) (text : Text) : d.refAt? index.plainZero = none →
      Refuses d (.appendText index text) (.violation (.textOfClosedBlock index))
  | closeText (index : Number) : d.refAt? index.plainZero = none →
      Refuses d (.closeText index) (.violation (.stopOfClosedBlock index))
  | appendBlocks (given : List Json) (f : Failure) : given.mapM Block.copy = .error f →
      Refuses d (.appendBlocks given) f

/-- What a step does that takes place. -/
inductive Made (d : SharedDraft) : DraftStep → SharedDraft → Prop
  | start (header : Header) : Made d (.start header)
      { d with head := (Draft.start header).head, content := [], handles := [] }
  | openText (index : Number) (text : Text) : d.refAt? index.plainZero = none →
      Made d (.openText index text)
        { d.push [.text text] with
          handles := d.handles ++ [⟨index.plainZero, d.store.length⟩] }
  | appendText (index : Number) (text : Text) (ref : Nat) :
      d.refAt? index.plainZero = some ref →
      Made d (.appendText index text) { d with store := d.store.modify ref (Block.append text) }
  | closeText (index : Number) (ref : Nat) : d.refAt? index.plainZero = some ref →
      Made d (.closeText index)
        { d with handles := d.handles.filter (·.key ≠ index.plainZero) }
  | appendBlocks (given : List Json) (blocks : List Block) : given.mapM Block.copy = .ok blocks →
      Made d (.appendBlocks given) (d.push blocks)
  | applyDelta (stop : StopInfo) (usage : Option Usage) : Made d (.applyDelta stop usage)
      { d with head := ((d.head.draft [] []).applyDelta stop usage).head }

/-- A key under which the table holds nothing is the key of none of its entries. -/
theorem refAt?_eq_none_iff {key : Number} :
    d.refAt? key = none ↔ ∀ h ∈ d.handles, h.key ≠ key := by
  simp [refAt?]

theorem mem_of_refAt? {key : Number} {ref : Nat} (h : d.refAt? key = some ref) :
    (⟨key, ref⟩ : Handle) ∈ d.handles := by
  obtain ⟨⟨key', ref'⟩, hfind, rfl⟩ := Option.map_eq_some_iff.mp h
  have hkey : key' = key := by simpa using List.find?_some hfind
  exact hkey ▸ List.mem_of_find?_eq_some hfind

end SharedDraft

namespace Sharing

open SharedDraft Attempt

variable {d d' : SharedDraft} {step : DraftStep} {f : Failure}

/-- A step takes place, or it is refused and leaves everything as it was. -/
theorem on_make (d : SharedDraft) (step : DraftStep) :
    (∃ d', on d (make step) = (.ok (), d') ∧ d.Made step d') ∨
      ∃ f, on d (make step) = (.error f, d) ∧ d.Refuses step f := by
  cases step with
  | start header => exact .inl ⟨_, rfl, .start header⟩
  | openText index text =>
      cases hkey : d.refAt? index.plainZero with
      | none =>
          refine .inl ⟨_, ?_, .openText index text hkey⟩
          simp [make, openText, hkey, push]
      | some ref =>
          refine .inr ⟨_, ?_, .openText index text (by rw [hkey]; rfl)⟩
          simp [make, openText, hkey]
  | appendText index text =>
      cases hkey : d.refAt? index.plainZero with
      | none =>
          refine .inr ⟨_, ?_, .appendText index text hkey⟩
          simp [make, appendText, hkey]
      | some ref =>
          refine .inl ⟨_, ?_, .appendText index text ref hkey⟩
          simp [make, appendText, hkey]
  | closeText index =>
      cases hkey : d.refAt? index.plainZero with
      | none =>
          -- What is removed before the check was not there.
          have hsame : d.handles.filter (·.key ≠ index.plainZero) = d.handles :=
            List.filter_eq_self.mpr fun h hmem => by
              simpa using refAt?_eq_none_iff.mp hkey h hmem
          refine .inr ⟨_, ?_, .closeText index hkey⟩
          simp only [make, closeText, on_bind, on_get, on_modify, hkey, hsame, Option.isSome_none,
            Bool.not_false, if_true, on_violate]
      | some ref =>
          refine .inl ⟨_, ?_, .closeText index ref hkey⟩
          simp [make, closeText, hkey]
  | appendBlocks given =>
      cases hcopy : given.mapM Block.copy with
      | ok blocks =>
          refine .inl ⟨_, ?_, .appendBlocks given blocks hcopy⟩
          simp [make, appendBlocks, hcopy]
      | error f =>
          refine .inr ⟨_, ?_, .appendBlocks given f hcopy⟩
          simp [make, appendBlocks, hcopy]
  | applyDelta stop usage => exact .inl ⟨_, rfl, .applyDelta stop usage⟩

theorem made_of_on (h : on d (make step) = (.ok (), d')) : d.Made step d' := by
  obtain ⟨d'', hon, hmade⟩ | ⟨f, hon, -⟩ := on_make d step
  · cases h.symm.trans hon
    exact hmade
  · cases h.symm.trans hon

theorem on_make_failed (h : on d (make step) = (.error f, d')) : d' = d ∧ d.Refuses step f := by
  obtain ⟨d'', hon, -⟩ | ⟨g, hon, hrefused⟩ := on_make d step
  · cases h.symm.trans hon
  · cases h.symm.trans hon
    exact ⟨rfl, hrefused⟩

end Sharing

/-! ## References -/

namespace SharedDraft

variable {d d' : SharedDraft} {step : DraftStep}

/-- The references of a draft lead to blocks, the content has no block twice, and the table has no key
and no block twice and only blocks of the content. -/
structure Sound (d : SharedDraft) : Prop where
  inStore : ∀ ref ∈ d.content, ref < d.store.length
  once : d.content.Nodup
  keys : (d.handles.map Handle.key).Nodup
  refs : (d.handles.map Handle.ref).Nodup
  inContent : ∀ h ∈ d.handles, h.ref ∈ d.content

theorem sound_blank : blank.Sound :=
  ⟨nofun, List.nodup_nil, List.nodup_nil, List.nodup_nil, nofun⟩

theorem Sound.push (h : d.Sound) (blocks : List Block) : (d.push blocks).Sound := by
  refine ⟨?_, ?_, h.keys, h.refs, ?_⟩
  · intro ref href
    rw [SharedDraft.push, List.length_append]
    rcases List.mem_append.mp href with href | href
    · have := h.inStore ref href
      omega
    · have := List.mem_range'_1.mp href
      omega
  · refine List.nodup_append.mpr ⟨h.once, List.nodup_range', ?_⟩
    intro ref href ref' href' heq
    have hold := h.inStore ref href
    have hnew := List.mem_range'_1.mp href'
    omega
  · intro handle hmem
    exact List.mem_append_left _ (h.inContent handle hmem)

theorem Sound.made (h : d.Sound) (hmade : d.Made step d') : d'.Sound := by
  cases hmade with
  | start header => exact ⟨nofun, List.nodup_nil, List.nodup_nil, List.nodup_nil, nofun⟩
  | openText index text hkey =>
      have hpush := h.push [.text text]
      refine ⟨hpush.inStore, hpush.once, ?_, ?_, ?_⟩
      · rw [List.map_append]
        refine List.nodup_append.mpr ⟨h.keys, List.nodup_singleton _, ?_⟩
        intro key hmem key' hnew
        obtain ⟨handle, hhandle, rfl⟩ := List.mem_map.mp hmem
        rw [List.mem_singleton.mp hnew]
        exact refAt?_eq_none_iff.mp hkey handle hhandle
      · -- The block is newer than all to which the table refers.
        rw [List.map_append]
        refine List.nodup_append.mpr ⟨h.refs, List.nodup_singleton _, ?_⟩
        intro ref hmem ref' hnew
        obtain ⟨handle, hhandle, rfl⟩ := List.mem_map.mp hmem
        rw [List.mem_singleton.mp hnew]
        exact Nat.ne_of_lt (h.inStore _ (h.inContent handle hhandle))
      · intro handle hmem
        rcases List.mem_append.mp hmem with hold | hnew
        · exact hpush.inContent handle hold
        · rw [List.mem_singleton.mp hnew]
          exact List.mem_append_right _ (List.mem_range'_1.mpr ⟨Nat.le_refl _, Nat.lt_succ_self _⟩)
  | appendText index text ref hkey =>
      refine ⟨fun ref' href' => ?_, h.once, h.keys, h.refs, h.inContent⟩
      rw [List.length_modify]
      exact h.inStore ref' href'
  | closeText index ref hkey =>
      have hsub : (d.handles.filter (·.key ≠ index.plainZero)).Sublist d.handles :=
        List.filter_sublist
      exact ⟨h.inStore, h.once, (hsub.map _).nodup h.keys, (hsub.map _).nodup h.refs,
        fun handle hmem => h.inContent handle (hsub.subset hmem)⟩
  | appendBlocks given blocks hcopy => exact h.push blocks
  | applyDelta stop usage => exact ⟨h.inStore, h.once, h.keys, h.refs, h.inContent⟩

/-- The table finds every entry that it has. -/
theorem Sound.refAt? (h : d.Sound) {handle : Handle} (hmem : handle ∈ d.handles) :
    d.refAt? handle.key = some handle.ref := by
  cases hkey : d.refAt? handle.key with
  | none => exact absurd rfl (refAt?_eq_none_iff.mp hkey handle hmem)
  | some ref =>
      have hsame := List.inj_on_of_nodup_map h.keys hmem (mem_of_refAt? hkey) rfl
      rw [hsame]

/-! ## The content -/

theorem block_of_store {ref : Nat} {b : Block} (h : d.store[ref]? = some b) : d.block ref = b := by
  rw [block, List.getD_eq_getElem?_getD, h]
  rfl

/-- New blocks come behind those that are there. -/
theorem Sound.view_push (h : d.Sound) (blocks : List Block) :
    (d.push blocks).view = d.view ++ blocks := by
  have hold : d.content.map (d.push blocks).block = d.content.map d.block := by
    refine List.map_congr_left fun ref href => ?_
    simp only [block, SharedDraft.push, List.getD_eq_getElem?_getD,
      List.getElem?_append_left (h.inStore ref href)]
  have hnew : (List.range' d.store.length blocks.length).map (d.push blocks).block = blocks := by
    refine List.ext_getElem (by simp) fun i _ hi => ?_
    simp [block, SharedDraft.push, hi]
  rw [view, SharedDraft.push, List.map_append]
  exact congr (congrArg _ hold) hnew

/-- What is changed by way of a reference is one place of the content. -/
theorem Sound.view_modify (h : d.Sound) {place ref : Nat} (hplace : d.content[place]? = some ref)
    (change : Block → Block) :
    ({ d with store := d.store.modify ref change } : SharedDraft).view
      = d.view.modify place change := by
  have href : ref < d.store.length := h.inStore ref (List.mem_of_getElem? hplace)
  refine List.ext_getElem? fun p => ?_
  simp only [view, List.getElem?_map, List.getElem?_modify]
  by_cases hp : place = p
  · subst hp
    simp [hplace, block, href]
  · -- The content has the block at no other place.
    cases hat : d.content[p]? with
    | none => simp
    | some ref' =>
        have hne : ref ≠ ref' := by
          rintro rfl
          have hlt : place < d.content.length := (List.getElem?_eq_some_iff.mp hplace).1
          exact hp ((List.getElem?_inj hlt h.once).mp (hplace.trans hat.symm))
        simp [block, hne, hp]

end SharedDraft

/-! ## Texts that are found by their places -/

/-- The index that a step names. -/
def DraftStep.index? : DraftStep → Option Number
  | .openText index _ => some index
  | .appendText index _ => some index
  | .closeText index => some index
  | _ => none

/-- The step on a draft that finds its texts by their places. -/
def DraftStep.inPlace : DraftStep → InPlace Unit
  | .start header => InPlace.start header
  | .openText index text => InPlace.openText index text
  | .appendText index text => InPlace.appendText index text
  | .closeText index => InPlace.closeText index
  | .appendBlocks given =>
    match given.mapM Block.copy with
    | .ok blocks => InPlace.appendBlocks blocks
    | .error f => throw f
  | .applyDelta stop usage => InPlace.applyDelta stop usage

namespace SharedDraft

variable {d d' : SharedDraft} {step : DraftStep} {f : Failure}

theorem draft_openAt? (d : SharedDraft) (key : Number) :
    d.draft.openAt? key = (d.refAt? key).map fun ref => ⟨key, d.content.idxOf ref⟩ := by
  rw [draft, Head.draft, Draft.openAt?, List.find?_map, refAt?, Option.map_map]
  refine Option.map_congr fun h hfind => ?_
  have hkey : h.key = key := by simpa using List.find?_some hfind
  simp [hkey]

theorem Sound.draft_push (h : d.Sound) (blocks : List Block) :
    (d.push blocks).draft = d.draft.appendBlocks blocks := by
  have hplaces : d.handles.map (fun h => (⟨h.key, (d.push blocks).content.idxOf h.ref⟩ : OpenText))
      = d.handles.map fun h => ⟨h.key, d.content.idxOf h.ref⟩ := by
    refine List.map_congr_left fun handle hmem => ?_
    rw [SharedDraft.push, List.idxOf_append_of_mem (h.inContent handle hmem)]
  rw [draft, h.view_push]
  exact congrArg (d.head.draft (d.view ++ blocks)) hplaces

theorem Sound.draft_openText (h : d.Sound) {index : Number} (text : Text)
    (hkey : d.refAt? index = none) :
    d.draft.openText index text
      = .ok ({ d.push [.text text] with
          handles := d.handles ++ [⟨index, d.store.length⟩] } : SharedDraft).draft := by
  have hplace : (d.push [.text text]).content.idxOf d.store.length = d.view.length := by
    have hnew : d.store.length ∉ d.content := fun hmem => Nat.lt_irrefl _ (h.inStore _ hmem)
    rw [SharedDraft.push, List.idxOf_append_of_notMem hnew, view, List.length_map]
    simp
  have hdraft : ({ d.push [.text text] with
        handles := d.handles ++ [⟨index, d.store.length⟩] } : SharedDraft).draft
      = { (d.push [.text text]).draft with
          openTexts := (d.push [.text text]).draft.openTexts ++ [⟨index, d.view.length⟩] } := by
    rw [← hplace]
    simp [draft, Head.draft, SharedDraft.push, view, block]
  rw [hdraft, h.draft_push, Draft.openText, draft_openAt?, hkey]
  rfl

theorem Sound.draft_appendText (h : d.Sound) {index : Number} {ref : Nat} (text : Text)
    (hkey : d.refAt? index = some ref) :
    d.draft.appendText index text
      = .ok ({ d with store := d.store.modify ref (Block.append text) } : SharedDraft).draft := by
  have hview := h.view_modify (List.getElem?_idxOf (h.inContent _ (mem_of_refAt? hkey)))
    (Block.append text)
  rw [Draft.appendText, draft_openAt?, hkey, draft, draft, hview]
  rfl

theorem draft_closeText {index : Number} {ref : Nat} (hkey : d.refAt? index = some ref) :
    d.draft.closeText index
      = .ok ({ d with handles := d.handles.filter (·.key ≠ index) } : SharedDraft).draft := by
  rw [Draft.closeText, draft_openAt?, hkey, draft, Head.draft, List.filter_map]
  rfl

end SharedDraft

namespace Sharing

open SharedDraft Attempt

variable {d : SharedDraft} {step : DraftStep}

/-- A step does to a shared draft what it does to a draft that finds its texts by their places, as long
as the index that it names is its own key. -/
theorem on_make_draft (h : d.Sound)
    (hplain : ∀ index, step.index? = some index → index.plainZero = index) :
    on d.draft step.inPlace = ((on d (make step)).1, (on d (make step)).2.draft) := by
  obtain ⟨d', hon, hmade⟩ | ⟨f, hon, hrefused⟩ := on_make d step
  · rw [hon]
    cases hmade with
    | start header => rfl
    | openText index text hkey =>
        have hindex := hplain index rfl
        rw [hindex] at hkey ⊢
        exact (InPlace.mirrors_openText index text).on_ok
          (congrArg Draft.lift (h.draft_openText text hkey))
    | appendText index text ref hkey =>
        rw [hplain index rfl] at hkey
        exact (InPlace.mirrors_appendText index text).on_ok
          (congrArg Draft.lift (h.draft_appendText text hkey))
    | closeText index ref hkey =>
        have hindex := hplain index rfl
        rw [hindex] at hkey ⊢
        exact (InPlace.mirrors_closeText index).on_ok (congrArg Draft.lift (draft_closeText hkey))
    | appendBlocks given blocks hcopy =>
        rw [DraftStep.inPlace, hcopy, h.draft_push]
        rfl
    | applyDelta stop usage => rfl
  · rw [hon]
    cases hrefused with
    | openText index text hkey =>
        rw [hplain index rfl] at hkey
        have hopen : d.draft.openText index text = .error (.blockAlreadyOpen index) := by
          rw [Draft.openText, draft_openAt?, Option.isSome_map, hkey]
          rfl
        exact (InPlace.mirrors_openText index text).on_error (congrArg Draft.lift hopen)
    | appendText index text hkey =>
        rw [hplain index rfl] at hkey
        have happend : d.draft.appendText index text = .error (.textOfClosedBlock index) := by
          rw [Draft.appendText, draft_openAt?, hkey]
          rfl
        exact (InPlace.mirrors_appendText index text).on_error (congrArg Draft.lift happend)
    | closeText index hkey =>
        rw [hplain index rfl] at hkey
        have hclose : d.draft.closeText index = .error (.stopOfClosedBlock index) := by
          rw [Draft.closeText, draft_openAt?, hkey]
          rfl
        exact (InPlace.mirrors_closeText index).on_error (congrArg Draft.lift hclose)
    | appendBlocks given f hcopy =>
        rw [DraftStep.inPlace, hcopy]
        rfl

end Sharing

end ChatRelay
