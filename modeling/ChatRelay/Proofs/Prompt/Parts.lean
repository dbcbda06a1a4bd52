import Mathlib.Data.List.Infix
import ChatRelay.Proofs.Result
import ChatRelay.Proofs.Turn.Exchange
import ChatRelay.Prompt

/-!
# What the parts of a user's content become

The content of a user is a list of parts, and `PartSays` says which block a part stands for: a
string or a part with a text stands for the text, an image for what its data URL holds. Nothing else
stands for a block. A data URL is one text in exactly one way (`dataUrl?_eq_some`), so an image can
be told from its block again.

The two forms that the result may have, one text or a list of blocks, are made by two readings of
the parts. Both say what the blocks of the parts say (`extractText_eq_texts`).
-/

namespace ChatRelay

open List (Forall₂)

theorem Json.text?_eq_some {v : Json} {t : Text} : v.text? = some t ↔ v = .str t := by
  cases v <;> simp [Json.text?]

theorem Json.bind_text?_eq_some {v : Option Json} {t : Text} :
    v.bind Json.text? = some t ↔ v = some (.str t) := by
  cases v <;> simp [Json.text?_eq_some]

namespace Prompt

/-! ## Data URLs -/

/-- A base64 data URL with a media type and data. -/
structure IsDataUrl (url mediaType data : Text) : Prop where
  parts : url = ("data:" : Text) ++ mediaType ++ (";base64," : Text) ++ data
  mediaType_ne_nil : mediaType ≠ []
  semicolon : Text.unit ';' ∉ mediaType
  comma : Text.unit ',' ∉ mediaType
  data_ne_nil : data ≠ []

/-- Whether a unit may stand in a media type. -/
def inMediaType (u : CodeUnit) : Bool := u ≠ Text.unit ';' && u ≠ Text.unit ','

theorem forall_inMediaType {t : Text} :
    (∀ u ∈ t, inMediaType u = true) ↔ Text.unit ';' ∉ t ∧ Text.unit ',' ∉ t := by
  have hsemicolon : inMediaType (Text.unit ';') = false := by decide
  have hcomma : inMediaType (Text.unit ',') = false := by decide
  constructor
  · intro h
    refine ⟨fun hmem => ?_, fun hmem => ?_⟩
    · rw [h _ hmem] at hsemicolon
      cases hsemicolon
    · rw [h _ hmem] at hcomma
      cases hcomma
  · rintro ⟨hs, hc⟩ u hu
    have hus : u ≠ Text.unit ';' := fun h => hs (h ▸ hu)
    have huc : u ≠ Text.unit ',' := fun h => hc (h ▸ hu)
    simp [inMediaType, hus, huc]

/-- A URL is cut behind its mark, at its first semicolon or comma, and behind the second mark. -/
theorem dataUrl?_eq (url : Text) :
    dataUrl? url = (Text.after? "data:" url).bind fun rest =>
      (Text.after? ";base64," (rest.drop (rest.takeWhile inMediaType).length)).bind fun data =>
        if (rest.takeWhile inMediaType).isEmpty || data.isEmpty then none
        else some (rest.takeWhile inMediaType, data) := by
  rw [dataUrl?]
  cases Text.after? "data:" url with
  | none => rfl
  | some rest =>
      have hunits : (fun u => u ≠ Text.unit ';' && u ≠ Text.unit ',') = inMediaType := rfl
      dsimp only [Option.bind_some]
      rw [hunits]
      cases Text.after? ";base64," (rest.drop (rest.takeWhile inMediaType).length) <;> rfl

theorem dataUrl?_eq_some {url mediaType data : Text} :
    dataUrl? url = some (mediaType, data) ↔ IsDataUrl url mediaType data := by
  rw [dataUrl?_eq]
  constructor
  · intro h
    obtain ⟨rest, hrest, h⟩ := Option.bind_eq_some_iff.mp h
    obtain ⟨found, hfound, h⟩ := Option.bind_eq_some_iff.mp h
    split at h
    case isTrue => cases h
    case isFalse hsaid =>
      obtain ⟨rfl, rfl⟩ := Prod.mk.inj (Option.some.inj h)
      have hall : ∀ u ∈ rest.takeWhile inMediaType, inMediaType u = true :=
        List.all_eq_true.mp List.all_takeWhile
      have hcut : rest = rest.takeWhile inMediaType ++ (";base64," ++ found) := by
        have hprefix := List.prefix_append_drop (List.takeWhile_prefix inMediaType (l := rest))
        rwa [Text.after?_eq_some hfound] at hprefix
      obtain ⟨hsemicolon, hcomma⟩ := forall_inMediaType.mp hall
      rw [Bool.or_eq_true, not_or, List.isEmpty_iff, List.isEmpty_iff] at hsaid
      refine ⟨?_, hsaid.1, hsemicolon, hcomma, hsaid.2⟩
      rw [Text.after?_eq_some hrest, List.append_assoc, List.append_assoc, ← hcut]
  · rintro ⟨rfl, hmedia, hsemicolon, hcomma, hdata⟩
    have hall := forall_inMediaType.mpr ⟨hsemicolon, hcomma⟩
    have htake : (mediaType ++ ((";base64," : Text) ++ data)).takeWhile inMediaType = mediaType := by
      rw [List.takeWhile_append_of_pos hall]
      exact List.append_nil mediaType
    rw [List.append_assoc, List.append_assoc, Text.after?_append, Option.bind_some, htake,
      List.drop_left, Text.after?_append, Option.bind_some]
    simp [hmedia, hdata]

/-! ## Parts -/

/-- The URL of an image part, given directly or in an object. -/
inductive ImageUrl (part : Json) : Text → Prop
  | direct {url : Text} : part.get? "image_url" = some (.str url) → ImageUrl part url
  | inside {image : Json} {url : Text} : part.get? "image_url" = some image →
      image.get? "url" = some (.str url) → ImageUrl part url

/-- The block that a part stands for. -/
inductive PartSays : Json → RequestBlock → Prop
  | string (t : Text) : PartSays (.str t) (.text t)
  | image {part : Json} {url mediaType data : Text} :
      part.get? "type" = some (.str "image_url") → ImageUrl part url →
      IsDataUrl url mediaType data → PartSays part (.image mediaType data)
  | text {part : Json} {t : Text} : part.get? "type" ≠ some (.str "image_url") →
      part.get? "text" = some (.str t) → PartSays part (.text t)

theorem ImageUrl.imageUrl_eq {part : Json} {url : Text} (h : ImageUrl part url) :
    imageUrl part = url := by
  cases h with
  | direct hurl => rw [imageUrl, hurl]
  | @inside image url himage hurl =>
      rw [imageUrl, himage]
      cases image with
      | str s => cases hurl
      | null | bool | num | arr | obj =>
          dsimp only
          rw [hurl]
          rfl

/-- A part has a URL that it says, or it is as if it had an empty one. -/
theorem imageUrl_cases (part : Json) : ImageUrl part (imageUrl part) ∨ imageUrl part = [] := by
  rw [imageUrl]
  split
  case h_1 url hurl => exact .inl (.direct hurl)
  case h_2 image hnot himage =>
    cases htext : (image.get? "url").bind Json.text? with
    | none => exact .inr rfl
    | some url => exact .inl (.inside himage (Json.bind_text?_eq_some.mp htext))
  case h_3 => exact .inr rfl

theorem imageBlock_eq_ok {part : Json} {b : RequestBlock} :
    imageBlock part = .ok b ↔ ∃ url mediaType data, ImageUrl part url ∧
      IsDataUrl url mediaType data ∧ b = .image mediaType data := by
  rw [imageBlock]
  constructor
  · intro h
    split at h
    case h_1 mediaType data hdata =>
      cases h
      have hurl := dataUrl?_eq_some.mp hdata
      rcases imageUrl_cases part with himage | hnone
      · exact ⟨_, _, _, himage, hurl, rfl⟩
      · rw [hnone] at hdata
        cases hdata
    case h_2 => cases h
  · rintro ⟨url, mediaType, data, himage, hurl, rfl⟩
    rw [himage.imageUrl_eq, dataUrl?_eq_some.mpr hurl]

theorem partText?_eq {part : Json} (h : ∀ t, part ≠ .str t) :
    partText? part = (part.get? "text").bind Json.text? := by
  cases part with
  | str t => exact absurd rfl (h t)
  | null | bool | num | arr | obj => rfl

theorem partBlock_eq_ok {part : Json} {b : RequestBlock} :
    partBlock part = .ok b ↔ PartSays part b := by
  by_cases hstring : ∃ t, part = .str t
  · obtain ⟨t, rfl⟩ := hstring
    constructor
    · intro h
      cases h
      exact .string t
    · intro h
      cases h with
      | string => rfl
      | image htype | text _ htype => cases htype
  · have hnot : ∀ t, part ≠ .str t := fun t h => hstring ⟨t, h⟩
    have hblock : partBlock part
        = if part.get? "type" = some (.str "image_url") then imageBlock part
          else (partText? part).elim (.error (unsupportedPart part)) (fun t => .ok (.text t)) := by
      rw [partBlock]
      · cases partText? part <;> rfl
      · exact hnot
    rw [hblock]
    by_cases htype : part.get? "type" = some (.str "image_url")
    · rw [if_pos htype, imageBlock_eq_ok]
      constructor
      · rintro ⟨url, mediaType, data, himage, hurl, rfl⟩
        exact .image htype himage hurl
      · intro h
        cases h with
        | string t => exact absurd rfl (hnot t)
        | image _ himage hurl => exact ⟨_, _, _, himage, hurl, rfl⟩
        | text hother => exact absurd htype hother
    · rw [if_neg htype, partText?_eq hnot]
      constructor
      · intro h
        cases htext : (part.get? "text").bind Json.text? with
        | none =>
            rw [htext] at h
            cases h
        | some t =>
            rw [htext] at h
            cases h
            exact .text htype (Json.bind_text?_eq_some.mp htext)
      · intro h
        cases h with
        | string t => exact absurd rfl (hnot t)
        | image himage => exact absurd himage htype
        | text _ ht =>
            rw [Json.bind_text?_eq_some.mpr ht]
            rfl

theorem PartSays.partText? {part : Json} {t : Text} (h : PartSays part (.text t)) :
    Prompt.partText? part = some t := by
  cases h with
  | string => rfl
  | text _ ht =>
      cases part with
      | str s => cases ht
      | null | bool | num | arr | obj => exact Json.bind_text?_eq_some.mpr ht

/-! ## Whole contents -/

/-- Without images both readings of the parts give the same texts. -/
theorem extractText_eq_texts {parts : List Json} {blocks : List RequestBlock}
    (h : Forall₂ PartSays parts blocks) (himage : ∀ b ∈ blocks, isImage b = false) :
    extractText (.arr parts) = (blocks.filterMap RequestBlock.text?).flatten := by
  have htexts : parts.filterMap Prompt.partText? = blocks.filterMap RequestBlock.text? := by
    induction h with
    | nil => rfl
    | @cons part b parts blocks hpart _ ih =>
        rw [List.forall_mem_cons] at himage
        cases b with
        | text t =>
            rw [List.filterMap_cons_some hpart.partText?, ih himage.2]
            rfl
        | image => cases himage.1
        | toolUse | toolResult => cases hpart
  rw [extractText, htexts]

theorem any_isImage {blocks : List RequestBlock} :
    blocks.any isImage = true ↔ ∃ mediaType data, .image mediaType data ∈ blocks := by
  rw [List.any_eq_true]
  constructor
  · rintro ⟨b, hb, himage⟩
    cases b with
    | image mediaType data => exact ⟨mediaType, data, hb⟩
    | text | toolUse | toolResult => cases himage
  · rintro ⟨mediaType, data, hmem⟩
    exact ⟨_, hmem, rfl⟩

theorem userContent_eq {parts : List Json} {blocks : List RequestBlock}
    (h : Forall₂ PartSays parts blocks) :
    userContent (.arr parts) = .ok (if blocks.any isImage then .blocks (blocks.filter (· ≠ .text []))
      else .text (blocks.filterMap RequestBlock.text?).flatten) := by
  have hblocks : parts.mapM partBlock = .ok blocks :=
    Except.mapM_eq_ok.mpr (h.imp fun _ _ hpart => partBlock_eq_ok.mpr hpart)
  have hcontent : userContent (.arr parts) = .ok (if blocks.any isImage then
      .blocks (blocks.filter (· ≠ .text [])) else .text (extractText (.arr parts))) := by
    rw [userContent, hblocks]
    rfl
  rw [hcontent]
  cases himage : blocks.any isImage with
  | true => rfl
  | false =>
      have hnone : ∀ b ∈ blocks, isImage b = false := by
        intro b hb
        exact Bool.eq_false_iff.mpr (List.any_eq_false.mp himage b hb)
      rw [extractText_eq_texts h hnone]

theorem userContent_eq_ok {parts : List Json} {c : Content} (h : userContent (.arr parts) = .ok c) :
    ∃ blocks, Forall₂ PartSays parts blocks := by
  obtain ⟨blocks, hblocks, -⟩ := Except.bind_eq_ok h
  exact ⟨blocks, (Except.mapM_eq_ok.mp hblocks).imp fun _ _ hpart => partBlock_eq_ok.mp hpart⟩

theorem forall_partSays {parts : List Json} :
    (∀ part ∈ parts, ∃ b, PartSays part b) ↔ ∃ blocks, Forall₂ PartSays parts blocks := by
  induction parts with
  | nil => simp
  | cons part parts ih =>
      rw [List.forall_mem_cons, ih]
      simp only [List.forall₂_cons_left_iff]
      constructor
      · rintro ⟨⟨b, hb⟩, blocks, hblocks⟩
        exact ⟨b :: blocks, b, blocks, hb, hblocks, rfl⟩
      · rintro ⟨_, b, blocks, hb, hblocks, rfl⟩
        exact ⟨⟨b, hb⟩, blocks, hblocks⟩

/-! ## A message that stands alone -/

theorem conversation_single (m : PromptMessage) :
    conversation [m] = (convert? m).map Option.toList := by
  rw [conversation, List.foldlM_cons]
  cases convert? m with
  | error f => rfl
  | ok next => cases next <;> rfl

theorem toConversation_single (m : PromptMessage) :
    toConversation [m] = (convert? m).map fun next => (systemText [m], next.toList) := by
  have hcount : ¬ 1 < ([m].filter PromptMessage.isSystem).length :=
    Nat.not_lt.mpr (List.length_filter_le PromptMessage.isSystem [m])
  rw [toConversation, if_neg hcount, conversation_single]
  cases convert? m <;> rfl

theorem toConversation_user (content : Json) :
    toConversation [.human content]
      = (userContent content).map fun c => (none, [⟨.user, c⟩]) := by
  rw [toConversation_single, convert?]
  cases userContent content <;> rfl

/-- What a user says is sent without loss. A list of parts is taken exactly if every part stands for
a block, and what is sent are these blocks. -/
theorem toConversation_human (parts : List Json) :
    ((∃ result, toConversation [.human (.arr parts)] = .ok result) ↔
      ∀ part ∈ parts, ∃ b, PartSays part b) ∧
    ∀ blocks, Forall₂ PartSays parts blocks →
      ((∀ mediaType data, .image mediaType data ∉ blocks) → toConversation [.human (.arr parts)]
        = .ok (none, [⟨.user, .text (blocks.filterMap RequestBlock.text?).flatten⟩])) ∧
      ((∃ mediaType data, .image mediaType data ∈ blocks) → toConversation [.human (.arr parts)]
        = .ok (none, [⟨.user, .blocks (blocks.filter (· ≠ .text []))⟩])) := by
  rw [toConversation_user, forall_partSays]
  refine ⟨⟨?_, ?_⟩, ?_⟩
  · rintro ⟨result, hresult⟩
    obtain ⟨c, hcontent, -⟩ := Except.map_eq_ok.mp hresult
    exact userContent_eq_ok hcontent
  · rintro ⟨blocks, hblocks⟩
    rw [userContent_eq hblocks]
    exact ⟨_, rfl⟩
  · intro blocks hblocks
    rw [userContent_eq hblocks]
    constructor
    · intro hnone
      have himage : ¬ blocks.any isImage = true := by
        rw [any_isImage]
        rintro ⟨mediaType, data, hmem⟩
        exact hnone mediaType data hmem
      rw [if_neg himage]
      rfl
    · intro hsome
      rw [if_pos (any_isImage.mpr hsome)]
      rfl

/-- An image between two texts, one of which says nothing; the data of an image may hold a line feed. -/
example :
    toConversation [.human (.arr [.str "see", .obj [("type", .str "image_url"),
        ("image_url", .obj [("url", .str "data:image/png;base64,a\nb")])], .str []])]
      = .ok (none, [⟨.user, .blocks [.text "see", .image "image/png" "a\nb"]⟩]) := by
  rfl

end Prompt

end ChatRelay
