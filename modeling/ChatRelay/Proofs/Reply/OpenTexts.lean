import ChatRelay.Proofs.Reply.Shared
import ChatRelay.Proofs.Result
import Mathlib.Data.List.DropRight

/-!
# Where an open text stands

The steps that took place tell which texts are open (`DraftStep.Opened`): under each key the one that
was opened last, if it was neither closed since nor left behind by the start of a message. It stands
behind the blocks that were added before it, and its text is what was added under the key since.

The table of a shared draft is that of the texts of which the steps tell (`Tells`). A step that takes
place keeps this, since the references are good: what is opened is a new block, and what is added
under one key reaches no block that is open under another one. From this follows where a step changes
the content at all, and that blocks stay where they are until a message starts anew (`Grown`).
-/

namespace ChatRelay

/-! ## What the steps tell -/

namespace DraftStep

/-- Whether a step begins a message anew. -/
def startsMessage : DraftStep → Bool
  | .start _ => true
  | _ => false

/-- Whether a step opens a text. -/
def opensText : DraftStep → Bool
  | .openText .. => true
  | _ => false

/-- How many blocks a step adds to the content. -/
def size : DraftStep → Nat
  | .openText .. => 1
  | .appendBlocks given => given.length
  | _ => 0

/-- Whether a step opens or closes a text under a key. -/
def turns (key : Number) : DraftStep → Bool
  | .openText index _ => index.plainZero = key
  | .closeText index => index.plainZero = key
  | _ => false

/-- The text that a step adds under a key. -/
def textAt (key : Number) : DraftStep → Text
  | .appendText index text => if index.plainZero = key then text else []
  | _ => []

/-- The steps behind the last start of a message. -/
def sinceStart (past : List DraftStep) : List DraftStep := past.rtakeWhile fun s => !s.startsMessage

/-- How many blocks steps add to the content. -/
def blockCount : List DraftStep → Nat
  | [] => 0
  | s :: steps => s.size + blockCount steps

/-- Steps tell of an open text: since the last start of a message it was opened under the key, behind as
many blocks as its place says, and from then on nothing was opened or closed under the key. It has the
text with which it was opened, and all that was added under the key since. -/
def Opened (done : List DraftStep) (key : Number) (place : Nat) (text : Text) : Prop :=
  ∃ (before : List DraftStep) (index : Number) (first : Text) (after : List DraftStep),
    sinceStart done = before ++ .openText index first :: after ∧ index.plainZero = key ∧
      (∀ s ∈ after, s.turns key = false) ∧ place = blockCount before ∧
        text = first ++ after.flatMap (textAt key)

variable {done : List DraftStep} {s : DraftStep} {key : Number} {place : Nat} {text : Text}

theorem sinceStart_start (done : List DraftStep) (header : Header) :
    sinceStart (done ++ [.start header]) = [] :=
  List.rtakeWhile_concat_neg _ _ _ Bool.false_ne_true

theorem sinceStart_concat (hs : s.startsMessage = false) (done : List DraftStep) :
    sinceStart (done ++ [s]) = sinceStart done ++ [s] :=
  List.rtakeWhile_concat_pos _ _ _ (by rw [hs]; rfl)

theorem blockCount_append (steps later : List DraftStep) :
    blockCount (steps ++ later) = blockCount steps + blockCount later := by
  induction steps with
  | nil => exact (Nat.zero_add _).symm
  | cons s steps ih => rw [List.cons_append, blockCount, ih, blockCount, Nat.add_assoc]

theorem blockCount_concat (hs : s.startsMessage = false) (done : List DraftStep) :
    blockCount (sinceStart (done ++ [s])) = blockCount (sinceStart done) + s.size := by
  rw [sinceStart_concat hs, blockCount_append]
  rfl

theorem not_opened_start (header : Header) : ¬ Opened (done ++ [.start header]) key place text := by
  rintro ⟨before, index, first, after, hdone, -⟩
  rw [sinceStart_start] at hdone
  cases before <;> cases hdone

/-- One more step tells of the text that it opens itself, and of those before that it leaves open. -/
theorem opened_concat_iff (hs : s.startsMessage = false) :
    Opened (done ++ [s]) key place text ↔
      (∃ index, s = .openText index text ∧ index.plainZero = key ∧
        place = blockCount (sinceStart done)) ∨
      s.turns key = false ∧ ∃ t, Opened done key place t ∧ text = t ++ s.textAt key := by
  rw [Opened, sinceStart_concat hs]
  constructor
  · rintro ⟨before, index, first, after, hdone, hkey, hafter, rfl, rfl⟩
    obtain rfl | ⟨after, last, rfl⟩ := List.eq_nil_or_concat' after
    · obtain ⟨rfl, hlast⟩ := List.append_inj' hdone rfl
      cases hlast
      exact .inl ⟨index, by simp, hkey, rfl⟩
    · rw [← List.cons_append, ← List.append_assoc] at hdone
      obtain ⟨hfront, hlast⟩ := List.append_inj' hdone rfl
      cases hlast
      rw [List.forall_mem_append, List.forall_mem_singleton] at hafter
      refine .inr ⟨hafter.2, _, ⟨before, index, first, after, hfront, hkey, hafter.1, rfl, rfl⟩, ?_⟩
      simp
  · rintro (⟨index, rfl, hkey, rfl⟩ |
      ⟨hturns, t, ⟨before, index, first, after, hdone, hkey, hafter, rfl, rfl⟩, rfl⟩)
    · exact ⟨sinceStart done, index, text, [], rfl, hkey, List.forall_mem_nil _, rfl, by simp⟩
    · refine ⟨before, index, first, after ++ [s], ?_, hkey, ?_, rfl, ?_⟩
      · rw [hdone, List.append_assoc, List.cons_append]
      · rw [List.forall_mem_append, List.forall_mem_singleton]
        exact ⟨hafter, hturns⟩
      · simp

/-- A step that opens no text and adds none tells only of those before that it leaves open. -/
theorem Opened.of_quiet (h : Opened (done ++ [s]) key place text) (hs : s.startsMessage = false)
    (hopens : s.opensText = false) (htext : s.textAt key = []) :
    s.turns key = false ∧ Opened done key place text := by
  rcases (opened_concat_iff hs).mp h with ⟨index, rfl, -⟩ | ⟨hturns, t, hopen, rfl⟩
  · cases hopens
  · rw [htext, List.append_nil]
    exact ⟨hturns, hopen⟩

end DraftStep

/-! ## Growth -/

/-- A block as it may become later on: a text may get longer. -/
inductive Block.Grows : Block → Block → Prop
  | same (b : Block) : Grows b b
  | text (t more : Text) : Grows (.text t) (.text (t ++ more))

theorem Block.grows_append (b : Block) (more : Text) : b.Grows (b.append more) := by
  cases b with
  | text t => exact .text t more
  | _ => exact .same _

theorem Block.Grows.trans {a b c : Block} (h : a.Grows b) (h' : b.Grows c) : a.Grows c := by
  cases h with
  | same => exact h'
  | text t more =>
      cases h' with
      | same => exact .text t more
      | text _ further =>
          rw [List.append_assoc]
          exact .text t (more ++ further)

/-- A content as it may become later on: it has every block at its place, as that may have become. -/
def Grown (old new : List Block) : Prop :=
  ∀ (place : Nat) (b : Block), old[place]? = some b → ∃ b', new[place]? = some b' ∧ b.Grows b'

theorem Grown.refl (content : List Block) : Grown content content :=
  fun _ b hb => ⟨b, hb, .same b⟩

theorem Grown.trans {a b c : List Block} (h : Grown a b) (h' : Grown b c) : Grown a c := by
  intro place x hx
  obtain ⟨y, hy, hxy⟩ := h place x hx
  obtain ⟨z, hz, hyz⟩ := h' place y hy
  exact ⟨z, hz, hxy.trans hyz⟩

/-- A list has at a place what it has there with more behind it. -/
theorem getElem?_append_of_eq_some {α : Type} {l : List α} {i : Nat} {a : α} (h : l[i]? = some a)
    (more : List α) : (l ++ more)[i]? = some a :=
  (List.getElem?_append_left (List.getElem?_eq_some_iff.mp h).1).trans h

theorem grown_append (content more : List Block) : Grown content (content ++ more) :=
  fun _ b hb => ⟨b, getElem?_append_of_eq_some hb more, .same b⟩

theorem grown_modify (content : List Block) (place : Nat) (more : Text) :
    Grown content (content.modify place (Block.append more)) := by
  intro p b hb
  rw [List.getElem?_modify, hb]
  by_cases hp : place = p
  · exact ⟨b.append more, by simp [hp], b.grows_append more⟩
  · exact ⟨b, by simp [hp], .same b⟩

namespace SharedDraft

open DraftStep

variable {d d' : SharedDraft} {step : DraftStep} {done : List DraftStep}

theorem Sound.grown (h : d.Sound) (hmade : d.Made step d') (hstep : step.startsMessage = false) :
    Grown d.view d'.view := by
  cases hmade with
  | start header => cases hstep
  | openText index text hkey =>
      have hview := h.view_push [.text text]
      exact hview ▸ grown_append d.view [.text text]
  | appendText index text ref hkey =>
      obtain ⟨place, hplace⟩ := List.getElem?_of_mem (h.inContent _ (mem_of_refAt? hkey))
      rw [h.view_modify hplace]
      exact grown_modify d.view place text
  | closeText index ref hkey => exact .refl d.view
  | appendBlocks given blocks hcopy =>
      rw [h.view_push]
      exact grown_append d.view blocks
  | applyDelta stop usage => exact .refl d.view

/-! ## The table and the steps -/

/-- The steps that took place tell a draft. It has as many blocks as they added, and its table has an
entry for each text that they left open, which refers to the block of the content at its place. -/
structure Tells (done : List DraftStep) (d : SharedDraft) : Prop where
  sound : d.Sound
  count : blockCount (sinceStart done) = d.content.length
  told : ∀ h ∈ d.handles, ∃ place text, Opened done h.key place text
  found : ∀ key place text, Opened done key place text → ∃ ref, ⟨key, ref⟩ ∈ d.handles ∧
    d.content[place]? = some ref ∧ d.store[ref]? = some (.text text)

theorem tells_blank : Tells [] blank := by
  refine ⟨sound_blank, rfl, nofun, ?_⟩
  rintro key place text ⟨before, index, first, after, hdone, -⟩
  cases before <;> cases hdone

namespace Tells

/-- An entry is told behind a further step, unless that opens or closes its text. -/
theorem told_concat (h : Tells done d) (hstep : step.startsMessage = false) {handle : Handle}
    (hmem : handle ∈ d.handles) (hturns : step.turns handle.key = false) :
    ∃ place text, Opened (done ++ [step]) handle.key place text := by
  obtain ⟨place, text, hopen⟩ := h.told handle hmem
  exact ⟨place, _, (opened_concat_iff hstep).mpr (.inr ⟨hturns, text, hopen, rfl⟩)⟩

/-- Blocks that are pushed leave the open texts where they are. -/
theorem found_push (h : Tells done d) (blocks : List Block) {key : Number} {place : Nat}
    {text : Text} (hopen : Opened done key place text) : ∃ ref, ⟨key, ref⟩ ∈ d.handles ∧
      (d.push blocks).content[place]? = some ref ∧
        (d.push blocks).store[ref]? = some (.text text) := by
  obtain ⟨ref, hmem, hplace, hstore⟩ := h.found key place text hopen
  exact ⟨ref, hmem, getElem?_append_of_eq_some hplace _, getElem?_append_of_eq_some hstore _⟩

/-- Text that is added by way of the table reaches the open block of its key and no other one. -/
theorem found_append (h : Tells done d) {index : Number} {ref : Nat}
    (hkey : d.refAt? index.plainZero = some ref) (more : Text) {key : Number} {place : Nat}
    {text : Text} (hopen : Opened done key place text) : ∃ ref', ⟨key, ref'⟩ ∈ d.handles ∧
      d.content[place]? = some ref' ∧ (d.store.modify ref (Block.append more))[ref']?
        = some (.text (text ++ textAt key (.appendText index more))) := by
  obtain ⟨ref', hmem, hplace, hstore⟩ := h.found key place text hopen
  refine ⟨ref', hmem, hplace, ?_⟩
  rw [List.getElem?_modify, hstore, textAt]
  by_cases hindex : index.plainZero = key
  · have href : ref = ref' := by
      have hat := h.sound.refAt? hmem
      rw [← hindex] at hat
      exact Option.some.inj (hkey.symm.trans hat)
    simp [hindex, href, Block.append]
  · have href : ref ≠ ref' := by
      rintro rfl
      have hsame := List.inj_on_of_nodup_map h.sound.refs (mem_of_refAt? hkey) hmem rfl
      exact hindex (congrArg Handle.key hsame)
    simp [hindex, href]

theorem openText (h : Tells done d) {index : Number} (hkey : d.refAt? index.plainZero = none)
    (text : Text) : Tells (done ++ [.openText index text])
      { d.push [.text text] with
        handles := d.handles ++ [⟨index.plainZero, d.store.length⟩] } := by
  refine ⟨h.sound.made (.openText index text hkey), ?_, ?_, ?_⟩
  · rw [blockCount_concat rfl, h.count]
    simp [push, size]
  · intro handle hmem
    rcases List.mem_append.mp hmem with hold | hnew
    · refine h.told_concat rfl hold (decide_eq_false ?_)
      exact fun heq => refAt?_eq_none_iff.mp hkey handle hold heq.symm
    · rw [List.mem_singleton.mp hnew]
      exact ⟨_, text, (opened_concat_iff rfl).mpr (.inl ⟨index, rfl, rfl, rfl⟩)⟩
  · intro key place t hopen
    rcases (opened_concat_iff rfl).mp hopen with ⟨_, ⟨⟩, rfl, rfl⟩ | ⟨-, t, hold, rfl⟩
    · refine ⟨d.store.length, List.mem_concat_self, ?_, ?_⟩
      · rw [h.count]
        simp [push]
      · simp [push]
    · obtain ⟨ref, hmem, hplace, hstore⟩ := h.found_push [.text text] hold
      refine ⟨ref, List.mem_append_left _ hmem, hplace, hstore.trans ?_⟩
      rw [show textAt key (.openText index text) = [] from rfl, List.append_nil]

theorem closeText (h : Tells done d) {index : Number} {ref : Nat}
    (hkey : d.refAt? index.plainZero = some ref) : Tells (done ++ [.closeText index])
      { d with handles := d.handles.filter (·.key ≠ index.plainZero) } := by
  refine ⟨h.sound.made (.closeText index ref hkey), ?_, ?_, ?_⟩
  · rw [blockCount_concat rfl]
    exact h.count
  · intro handle hmem
    obtain ⟨hold, hne⟩ := List.mem_filter.mp hmem
    refine h.told_concat rfl hold (decide_eq_false ?_)
    exact fun heq => of_decide_eq_true hne heq.symm
  · intro key place text hopen
    obtain ⟨hturns, hold⟩ := hopen.of_quiet rfl rfl rfl
    obtain ⟨ref', hmem, hplace, hstore⟩ := h.found key place text hold
    have hne : key ≠ index.plainZero := fun heq => of_decide_eq_false hturns heq.symm
    exact ⟨ref', List.mem_filter.mpr ⟨hmem, decide_eq_true hne⟩, hplace, hstore⟩

/-- A step that takes place keeps the table that of the texts of which the steps tell. -/
theorem made (h : Tells done d) (hmade : d.Made step d') : Tells (done ++ [step]) d' := by
  have hsound := h.sound.made hmade
  cases hmade with
  | start header =>
      refine ⟨hsound, ?_, List.forall_mem_nil _, fun key place text hopen => ?_⟩
      · rw [sinceStart_start]
        rfl
      · exact absurd hopen (not_opened_start header)
  | openText index text hkey => exact h.openText hkey text
  | appendText index more ref hkey =>
      refine ⟨hsound, ?_, fun handle hmem => h.told_concat rfl hmem rfl, ?_⟩
      · rw [blockCount_concat rfl]
        exact h.count
      · intro key place text hopen
        rcases (opened_concat_iff rfl).mp hopen with ⟨_, ⟨⟩, -⟩ | ⟨-, t, hold, rfl⟩
        exact h.found_append hkey more hold
  | closeText index ref hkey => exact h.closeText hkey
  | appendBlocks given blocks hcopy =>
      refine ⟨hsound, ?_, fun handle hmem => h.told_concat rfl hmem rfl, ?_⟩
      · have hlength : given.length = blocks.length := (Except.mapM_eq_ok.mp hcopy).length_eq
        rw [blockCount_concat rfl, h.count]
        simp [push, size, hlength]
      · intro key place text hopen
        exact h.found_push blocks (hopen.of_quiet rfl rfl rfl).2
  | applyDelta stop usage =>
      refine ⟨hsound, ?_, fun handle hmem => h.told_concat rfl hmem rfl, ?_⟩
      · rw [blockCount_concat rfl]
        exact h.count
      · intro key place text hopen
        exact h.found key place text (hopen.of_quiet rfl rfl rfl).2

end Tells

/-- The open texts of a draft are those of which the steps tell. The table refers to the very block that
stands at the place of the text, and no two keys share a place. -/
structure Addresses (done : List DraftStep) (d : SharedDraft) : Prop where
  opened : ∀ key, (d.refAt? key).isSome = true ↔ ∃ place text, Opened done key place text
  shown : ∀ {key place text}, Opened done key place text →
    d.view[place]? = some (.text text) ∧ d.content[place]? = d.refAt? key
  apart : ∀ {key key' place place' text text'}, Opened done key place text →
    Opened done key' place' text' → (key = key' ↔ place = place')

theorem Tells.addresses (h : Tells done d) : d.Addresses done := by
  have hrefAt : ∀ {key place text}, Opened done key place text → ∃ ref,
      d.refAt? key = some ref ∧ d.content[place]? = some ref ∧ d.block ref = .text text := by
    intro key place text hopen
    obtain ⟨ref, hmem, hplace, hstore⟩ := h.found key place text hopen
    exact ⟨ref, h.sound.refAt? hmem, hplace, block_of_store hstore⟩
  refine ⟨fun key => ⟨fun hsome => ?_, ?_⟩, fun hopen => ?_, fun hopen hopen' => ?_⟩
  · obtain ⟨ref, href⟩ := Option.isSome_iff_exists.mp hsome
    exact h.told _ (mem_of_refAt? href)
  · rintro ⟨place, text, hopen⟩
    obtain ⟨ref, href, -⟩ := hrefAt hopen
    rw [href]
    rfl
  · obtain ⟨ref, href, hplace, hblock⟩ := hrefAt hopen
    refine ⟨?_, hplace.trans href.symm⟩
    rw [view, List.getElem?_map, hplace, Option.map_some, hblock]
  · obtain ⟨ref, href, hplace, -⟩ := hrefAt hopen
    obtain ⟨ref', href', hplace', -⟩ := hrefAt hopen'
    constructor
    · rintro rfl
      have hlt := (List.getElem?_eq_some_iff.mp hplace).1
      refine (List.getElem?_inj hlt h.sound.once).mp ?_
      rw [hplace, hplace', ← href, href']
    · rintro rfl
      obtain rfl : ref = ref' := Option.some.inj (hplace.symm.trans hplace')
      have hsame := List.inj_on_of_nodup_map h.sound.refs (mem_of_refAt? href)
        (mem_of_refAt? href') rfl
      exact congrArg Handle.key hsame

/-- Text that is added changes the one block that is open under the key. -/
theorem Tells.view_append (h : Tells done d) {index : Number} {more : Text}
    (hmade : d.Made (.appendText index more) d') :
    ∃ place text, Opened done index.plainZero place text ∧
      d'.view = d.view.set place (.text (text ++ more)) ∧
        d'.head = d.head ∧ d'.content = d.content ∧ d'.handles = d.handles := by
  cases hmade with
  | appendText _ _ ref hkey =>
      obtain ⟨place, text, hopen⟩ := h.told _ (mem_of_refAt? hkey)
      obtain ⟨hshown, hplace⟩ := h.addresses.shown hopen
      refine ⟨place, text, hopen, ?_, rfl, rfl, rfl⟩
      rw [h.sound.view_modify (hplace.trans hkey), List.modify_eq_set_getElem?, hshown]
      rfl

end SharedDraft

/-! ## Runs -/

namespace Sharing

open SharedDraft DraftStep Attempt

variable {d : SharedDraft}

/-- The steps that take place when all are made one after another. -/
def taken (d : SharedDraft) (steps : List DraftStep) : List DraftStep :=
  Attempts.taken (fun d step => on d (make step)) d steps

/-- What a step keeps that takes place holds of all steps that took place. -/
theorem makeAll_keeps {P : List DraftStep → SharedDraft → Prop}
    (hstep : ∀ past d step d', P past d → d.Made step d' → P (past ++ [step]) d')
    (past : List DraftStep) (hstart : P past d) (steps : List DraftStep) :
    P (past ++ taken d steps) (makeAll d steps).2 := by
  refine Attempts.run_keeps (fun d step f d' hon => (on_make_failed hon).1) ?_ past hstart steps
  intro past d step _ d' hpast hon
  exact hstep past d step d' hpast (made_of_on hon)

theorem tells_makeAll (steps : List DraftStep) :
    Tells (taken .blank steps) (makeAll .blank steps).2 :=
  makeAll_keeps (fun _ _ _ _ => Tells.made) [] tells_blank steps

/-- Steps that start no message leave every block at its place. -/
theorem grown_makeAll (h : d.Sound) {later : List DraftStep}
    (hlater : ∀ s ∈ later, s.startsMessage = false) : Grown d.view (makeAll d later).2.view := by
  have hkept := makeAll_keeps
    (P := fun past d' => d'.Sound ∧
      ((∀ s ∈ past, s.startsMessage = false) → Grown d.view d'.view))
    (fun past d' step d'' ⟨hsound, hgrown⟩ hmade => by
      refine ⟨hsound.made hmade, fun hpast => ?_⟩
      rw [List.forall_mem_append, List.forall_mem_singleton] at hpast
      exact (hgrown hpast.1).trans (hsound.grown hmade hpast.2))
    [] ⟨h, fun _ => .refl d.view⟩ later
  exact hkept.2 fun s hs => hlater s (Attempts.mem_of_mem_taken hs)

/-- Whatever steps are made, and whatever indexes they name, the references of the draft that they lead to
are good, and its open texts are those of which the steps tell that took place, each at a place of its
own. Text that is added changes one block, the open one at its index, and only its end. Closing a text
and reporting on the message leave the content alone, texts that are opened and blocks that are given
come at its end, and until a message starts anew every block stays where it is. A step that fails
changes nothing. For indexes that are their own keys all this is what is done to a draft that finds
its texts by their places. -/
theorem makeAll_addresses (steps : List DraftStep) :
    let done := taken .blank steps
    let d := (makeAll .blank steps).2
    d.Sound ∧ d.Addresses done ∧
      (∀ index more d', on d (make (.appendText index more)) = (.ok (), d') →
        ∃ place text, Opened done index.plainZero place text ∧
          d'.view = d.view.set place (.text (text ++ more)) ∧
            d'.head = d.head ∧ d'.content = d.content ∧ d'.handles = d.handles) ∧
      (∀ index, (on d (make (.closeText index))).2.view = d.view) ∧
      (∀ stop usage, (on d (make (.applyDelta stop usage))).2.view = d.view) ∧
      (∀ index text d', on d (make (.openText index text)) = (.ok (), d') →
        d'.view = d.view ++ [.text text]) ∧
      (∀ given d', on d (make (.appendBlocks given)) = (.ok (), d') →
        ∃ blocks, given.mapM Block.copy = .ok blocks ∧ d'.view = d.view ++ blocks) ∧
      (∀ later, (∀ s ∈ later, s.startsMessage = false) → Grown d.view (makeAll d later).2.view) ∧
      (∀ step f d', on d (make step) = (.error f, d') → d' = d ∧ d.Refuses step f) ∧
      ∀ step, (∀ index, step.index? = some index → index.plainZero = index) →
        on d.draft step.inPlace = ((on d (make step)).1, (on d (make step)).2.draft) := by
  intro done d
  have htells : Tells done d := tells_makeAll steps
  refine ⟨htells.sound, htells.addresses,
    fun index more d' hon => htells.view_append (made_of_on hon), ?_, fun _ _ => rfl, ?_, ?_,
    fun later hlater => grown_makeAll htells.sound hlater, fun step f d' => on_make_failed,
    fun step hplain => on_make_draft htells.sound hplain⟩
  · intro index
    obtain ⟨d', hon, hmade⟩ | ⟨f, hon, -⟩ := on_make d (.closeText index)
    · rw [hon]
      cases hmade
      rfl
    · rw [hon]
  · intro index text d' hon
    cases made_of_on hon
    exact htells.sound.view_push [.text text]
  · intro given d' hon
    cases made_of_on hon with
    | appendBlocks _ blocks hcopy => exact ⟨blocks, hcopy, htells.sound.view_push blocks⟩

/-- An index that is closed and opened again belongs to the new block, whatever stands between. Both zeros
are one index, and what is not a number is one as well. -/
example :
    let run := makeAll .blank
      [.openText (.zero false) "a", .openText .nan "b", .openText (.zero true) "c",
        .appendText (.zero true) "d", .closeText (.zero false), .appendText (.zero false) "e",
        .appendBlocks [.obj [("type", .str "text"), ("text", .str "f")]], .appendBlocks [.null],
        .openText (.zero false) "g", .appendText (.zero false) "h", .appendText .nan "i"]
    run.1.map Except.isOk
        = [true, true, false, true, true, false, true, false, true, true, true] ∧
      run.2.view = [.text "ad", .text "bi", .text "f", .text "gh"] := by
  decide +kernel

end Sharing

end ChatRelay
