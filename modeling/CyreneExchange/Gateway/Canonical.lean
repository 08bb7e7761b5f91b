import CyreneExchange.Gateway.Protocol

/-! What a normalized request looks like. Every normalizer returns canonical
values, whatever it was given. -/
namespace CyreneExchange.Gateway
open CyreneExchange.General

section Texts

/-- A text that is its own `strip()` and not blank. -/
def Trimmed (s : Str) : Prop := s.strip = s ∧ s.isBlank = false

theorem trimmed_strip {s : Str} (hBlank : s.isBlank = false) : Trimmed s.strip := by
  refine ⟨Str.strip_strip s, ?_⟩
  rw [Str.isBlank, Str.strip_strip]
  exact hBlank

theorem length_strip_le (s : Str) : s.strip.length ≤ s.length := by
  have hFront := (List.dropWhile_sublist (l := s) Str.isSpace).length_le
  have hBack :=
    (List.dropWhile_sublist (l := (s.dropWhile Str.isSpace).reverse) Str.isSpace).length_le
  rw [List.length_reverse] at hBack
  rw [Str.strip, List.length_reverse]
  exact Nat.le_trans hBack hFront

theorem isMimeChar_plain {c : CodePoint} (h : isMimeChar c = true ∨ isSlash c = true) :
    Str.isSpace c = false ∧ Str.lowerChar c = c := by
  have hRange : 33 ≤ c.val ∧ c.val ≤ 122 ∧ ¬ (65 ≤ c.val ∧ c.val ≤ 90) := by
    simp only [isMimeChar, isSlash, Bool.or_eq_true, Bool.and_eq_true, decide_eq_true_eq,
      beq_iff_eq, List.contains_iff_mem, List.mem_cons, List.not_mem_nil, or_false] at h
    omega
  constructor
  · simp only [Str.isSpace, Bool.or_eq_false_iff, Bool.and_eq_false_iff, decide_eq_false_iff_not,
      beq_eq_false_iff_ne]
    omega
  · unfold Str.lowerChar
    rw [dif_neg hRange.2.2, if_neg (by omega)]

theorem isMimeType_chars {s : Str} (h : isMimeType s = true) :
    ∀ c ∈ s, isMimeChar c = true ∨ isSlash c = true := by
  simp only [isMimeType, Bool.and_eq_true, List.all_eq_true, decide_eq_true_eq] at h
  obtain ⟨⟨⟨⟨hLength, -⟩, hCategory⟩, -⟩, hSubtype⟩ := h
  have hSplit : mimeCategory s ++ s.dropWhile (fun c => !isSlash c) = s :=
    List.takeWhile_append_dropWhile
  cases hRest : s.dropWhile (fun c => !isSlash c) with
  | nil =>
      rw [hRest, List.append_nil] at hSplit
      rw [hSplit] at hLength
      exact absurd hLength (Nat.lt_irrefl _)
  | cons slash subtype =>
      have hSlash : isSlash slash = true := by
        have hHead := List.head_dropWhile_not (fun c => !isSlash c) (l := s) (by simp [hRest])
        simpa [hRest] using hHead
      rw [hRest] at hSplit
      have hDrop : s.drop ((mimeCategory s).length + 1) = subtype := by
        have hAll := @List.drop_left _ (mimeCategory s) (slash :: subtype)
        rw [hSplit] at hAll
        rw [← List.drop_drop, hAll]
        rfl
      intro c hc
      rw [← hSplit] at hc
      rcases List.mem_append.mp hc with hc | hc
      · exact .inl (hCategory c hc)
      · rcases List.mem_cons.mp hc with rfl | hc
        · exact .inr hSlash
        · exact .inl (hSubtype c (hDrop ▸ hc))

/-- A MIME type that matched is its own normal form. -/
theorem isMimeType_fixed {s : Str} (h : isMimeType s = true) : s.strip.lower = s := by
  have hPlain := fun c hc => isMimeChar_plain (isMimeType_chars h c hc)
  have hStrip : s.strip = s := Str.strip_eq_self
    (fun c hc => (hPlain c (List.mem_of_mem_head? hc)).1)
    (fun c hc => (hPlain c (List.mem_of_mem_getLast? hc)).1)
  rw [hStrip, Str.lower]
  exact (List.map_congr_left fun c hc => (hPlain c hc).2).trans (List.map_id s)

end Texts

section Parts

/-- Inline bytes, or a reference to a stored artifact. -/
inductive MediaSource where
  | inline (data : List UInt8)
  | artifact (artifactId : Str)

namespace MediaSource

def entry : MediaSource → Dict
  | .inline data => [("data", .bytes data)]
  | .artifact artifactId => [("artifact_id", .str artifactId)]

/-- What the normalizer checks of a source. -/
def Fits : MediaSource → Prop
  | .inline data => data ≠ [] ∧ data.length ≤ maxChatMediaBytes
  | .artifact artifactId => opaqueReference artifactId = true

end MediaSource

/-- The file name entry of a part. -/
def filenameEntry : Option Str → Dict
  | some filename => [("filename", .str filename)]
  | none => []

/-- A normalized media part. -/
def mediaPart (partType mimeType : Str) (source : MediaSource) (filename : Option Str) : Dict :=
  [(text "type", .str partType), (text "mime_type", .str mimeType)] ++ source.entry ++
    filenameEntry filename

/-- A normalized text part. -/
def textPart (body : Str) : Dict := [("type", .str "text"), ("text", .str body)]

/-- The MIME type is well formed and fits the part type. -/
structure MimeFits (partType mimeType : Str) : Prop where
  matched : isMimeType mimeType = true
  length : mimeType.length ≤ 255
  image : partType = text "image" → mimeCategory mimeType = text "image"
  audio : partType = text "audio" → mimeCategory mimeType = text "audio"

/-- What `_normalize_content_part` returns. -/
inductive CanonicalPart : Value → Prop
  | ofText (body : Str) : CanonicalPart (.dict (textPart body))
  | ofMedia {partType mimeType : Str} {source : MediaSource} {filename : Option Str}
      (hType : partType ∈ [text "image", text "audio", text "file"])
      (hMime : MimeFits partType mimeType) (hSource : source.Fits)
      (hFilename : ∀ name, filename = some name →
        partType = text "file" ∧ plainFilename name = true) :
      CanonicalPart (.dict (mediaPart partType mimeType source filename))

/-- The part holds no media bytes. -/
def WithoutBytes (part : Value) : Prop :=
  ∀ d : Dict, part = .dict d → d.has "data" = false

variable {field partType : Str} {mediaBytes : Nat} {raw : Dict}

theorem normalizeMimeType_eq_ok {value : Value} {mimeType : Str} :
    normalizeMimeType value field = .ok mimeType ↔ ∃ s, value = .str s ∧ s.length ≤ 255 ∧
      isMimeType s.strip.lower = true ∧ mimeType = s.strip.lower := by
  simp only [normalizeMimeType, except_bind_eq_ok, expect_eq_ok, require_eq_ok,
    Value.asStr_eq_some, Bool.and_eq_true, decide_eq_true_eq]
  constructor
  · rintro ⟨s, rfl, _, ⟨hLength, hMatch⟩, hOut⟩
    cases hOut
    exact ⟨s, rfl, hLength, hMatch, rfl⟩
  · rintro ⟨s, rfl, hLength, hMatch, rfl⟩
    exact ⟨s, rfl, (), ⟨hLength, hMatch⟩, rfl⟩

theorem normalizeMediaSource_eq_ok {out : Dict × Nat}
    (h : normalizeMediaSource field mediaBytes raw = .ok out) :
    ∃ source : MediaSource, source.Fits ∧ out.1 = source.entry ∧
      (raw.has "data_base64" = false →
        ∃ artifactId, source = .artifact artifactId ∧ out.2 = mediaBytes) := by
  unfold normalizeMediaSource at h
  split at h
  · rename_i hHas
    obtain ⟨⟨data, total⟩, hInline, hOut⟩ := except_bind_eq_ok.mp h
    cases hOut
    obtain ⟨encoded, _, hRest⟩ := except_bind_eq_ok.mp hInline
    obtain ⟨_, _, hDecode⟩ := except_bind_eq_ok.mp hRest
    obtain ⟨decoded, _, hSize⟩ := except_bind_eq_ok.mp hDecode
    obtain ⟨_, hFits, hTotal⟩ := except_bind_eq_ok.mp hSize
    obtain ⟨_, _, hLast⟩ := except_bind_eq_ok.mp hTotal
    cases hLast
    rw [require_eq_ok] at hFits
    refine ⟨.inline data, by simpa [MediaSource.Fits] using hFits, rfl, fun hNone => ?_⟩
    rw [hHas] at hNone
    cases hNone
  · obtain ⟨artifactId, _, hRest⟩ := except_bind_eq_ok.mp h
    obtain ⟨_, hOpaque, hOut⟩ := except_bind_eq_ok.mp hRest
    cases hOut
    exact ⟨.artifact artifactId, require_eq_ok.mp hOpaque, rfl, fun _ => ⟨artifactId, rfl, rfl⟩⟩

theorem normalizeFilename_eq_ok {out : Dict}
    (h : normalizeFilename field partType raw = .ok out) :
    ∃ filename : Option Str, out = filenameEntry filename ∧ ∀ name, filename = some name →
      partType = text "file" ∧ plainFilename name = true := by
  unfold normalizeFilename at h
  split at h
  · rename_i hFile
    obtain ⟨name, _, hRest⟩ := except_bind_eq_ok.mp h
    obtain ⟨_, hPlain, hOut⟩ := except_bind_eq_ok.mp hRest
    cases hOut
    refine ⟨some name, rfl, ?_⟩
    rintro _ ⟨⟩
    exact ⟨hFile.1, require_eq_ok.mp hPlain⟩
  · cases h
    exact ⟨none, rfl, by simp⟩

/-- A media part that was accepted is canonical; a reference costs no bytes. -/
theorem normalizeMediaPart_canonical {out : Value × Nat}
    (hType : partType ∈ [text "image", text "audio", text "file"])
    (h : normalizeMediaPart field mediaBytes raw partType = .ok out) :
    CanonicalPart out.1 ∧
      (raw.has "data_base64" = false → WithoutBytes out.1 ∧ out.2 = mediaBytes) := by
  obtain ⟨_, _, hMime⟩ := except_bind_eq_ok.mp h
  obtain ⟨mimeType, hMimeType, hCategory⟩ := except_bind_eq_ok.mp hMime
  obtain ⟨_, hFits, hOne⟩ := except_bind_eq_ok.mp hCategory
  obtain ⟨_, _, hSource⟩ := except_bind_eq_ok.mp hOne
  obtain ⟨⟨entry, total⟩, hEntry, hName⟩ := except_bind_eq_ok.mp hSource
  obtain ⟨filename, hFilename, hOut⟩ := except_bind_eq_ok.mp hName
  cases hOut
  obtain ⟨s, _, hLength, hMatch, rfl⟩ := normalizeMimeType_eq_ok.mp hMimeType
  obtain ⟨source, hSourceFits, rfl, hReference⟩ := normalizeMediaSource_eq_ok hEntry
  obtain ⟨name, rfl, hNamed⟩ := normalizeFilename_eq_ok hFilename
  rw [require_eq_ok] at hFits
  have hShort : s.strip.lower.length ≤ 255 := by
    rw [Str.lower, List.length_map]
    exact Nat.le_trans (length_strip_le s) hLength
  have hMimeFits : MimeFits partType s.strip.lower := by
    refine ⟨hMatch, hShort, fun hImage => ?_, fun hAudio => ?_⟩
    · simpa [hImage] using hFits
    · simpa [hAudio] using hFits
  refine ⟨.ofMedia hType hMimeFits hSourceFits hNamed, fun hNone => ?_⟩
  obtain ⟨artifactId, rfl, rfl⟩ := hReference hNone
  refine ⟨?_, rfl⟩
  rintro d ⟨⟩
  cases name <;> simp [Dict.has, MediaSource.entry, filenameEntry]

/-- An accepted content part is canonical; a reference costs no bytes. -/
theorem normalizeContentPart_canonical {index partIndex : Nat} {item : Value} {out : Value × Nat}
    (h : normalizeContentPart index partIndex mediaBytes item = .ok out) :
    CanonicalPart out.1 ∧ ((∀ d : Dict, item = .dict d → d.has "data_base64" = false) →
      WithoutBytes out.1 ∧ out.2 = mediaBytes) := by
  obtain ⟨part, hPart, hBody⟩ := except_bind_eq_ok.mp h
  rw [expect_eq_ok, Value.asDict_eq_some] at hPart
  subst hPart
  dsimp only at hBody
  split at hBody
  · obtain ⟨_, _, hText⟩ := except_bind_eq_ok.mp hBody
    obtain ⟨body, _, hOut⟩ := except_bind_eq_ok.mp hText
    cases hOut
    refine ⟨.ofText body, fun _ => ⟨?_, rfl⟩⟩
    rintro d ⟨⟩
    simp [Dict.has]
  · obtain ⟨supported, hSupported, hRest⟩ := except_bind_eq_ok.mp hBody
    obtain ⟨_, hTrue, hMedia⟩ := except_bind_eq_ok.mp hRest
    rw [require_eq_ok] at hTrue
    subst hTrue
    have hType : (part.get "type").asStr.getD [] ∈ [text "image", text "audio", text "file"] := by
      obtain ⟨-, hAny⟩ := memberOf_eq_ok.mp hSupported
      cases hName : (part.get "type").asStr with
      | none => simp [hName] at hAny
      | some name => simpa [hName] using hAny
    obtain ⟨hCanonical, hFree⟩ := normalizeMediaPart_canonical hType hMedia
    exact ⟨hCanonical, fun hNone => hFree (hNone part rfl)⟩

/-- What the normalizer reads of a referencing part. -/
theorem mediaPart_reads {mimeType artifactId : Str} {filename : Option Str} :
    let d := mediaPart partType mimeType (.artifact artifactId) filename
    d.get "type" = .str partType ∧ d.get "mime_type" = .str mimeType ∧
      d.has "data_base64" = false ∧ d.has "artifact_id" = true ∧
      d.get "artifact_id" = .str artifactId ∧ d.has "filename" = filename.isSome ∧
      d.get "filename" = (filename.map Value.str).getD .none := by
  cases filename <;>
    simp [mediaPart, MediaSource.entry, filenameEntry, Dict.get, Dict.getD, Dict.has]

theorem mediaPart_fixed {mimeType artifactId : Str} {filename : Option Str}
    (hMime : MimeFits partType mimeType) (hArtifact : opaqueReference artifactId = true)
    (hFilename : ∀ name, filename = some name →
      partType = text "file" ∧ plainFilename name = true) :
    normalizeMediaPart field mediaBytes (mediaPart partType mimeType (.artifact artifactId) filename)
      partType = .ok (.dict (mediaPart partType mimeType (.artifact artifactId) filename),
        mediaBytes) := by
  obtain ⟨-, hMimeType, hEncoded, hHas, hReference, hHasName, hName⟩ :=
    @mediaPart_reads partType mimeType artifactId
      filename
  have hKnown : (mediaPart partType mimeType (.artifact artifactId) filename).unknownKeys
      (mediaFields partType) = [] := by
    rw [Dict.unknownKeys_eq_nil]
    cases hName : filename with
    | none => simp [mediaPart, MediaSource.entry, filenameEntry, mediaFields]
    | some name =>
        simp [mediaPart, MediaSource.entry, filenameEntry, mediaFields, (hFilename name hName).1]
  have hRead : normalizeMimeType (.str mimeType) field = .ok mimeType := by
    have hFixed := isMimeType_fixed hMime.matched
    exact normalizeMimeType_eq_ok.mpr
      ⟨mimeType, rfl, hMime.length, by rw [hFixed]; exact hMime.matched, hFixed.symm⟩
  have hCategory : ((decide (partType ≠ text "image") ||
      decide (mimeCategory mimeType = text "image")) && (decide (partType ≠ text "audio") ||
        decide (mimeCategory mimeType = text "audio"))) = true := by
    simp only [Bool.and_eq_true, Bool.or_eq_true, decide_eq_true_eq]
    exact ⟨or_iff_not_imp_left.mpr fun h => hMime.image (not_not.mp h),
      or_iff_not_imp_left.mpr fun h => hMime.audio (not_not.mp h)⟩
  have hSource : normalizeMediaSource field mediaBytes
      (mediaPart partType mimeType (.artifact artifactId) filename) =
        .ok ([("artifact_id", .str artifactId)], mediaBytes) := by
    simp [normalizeMediaSource, hEncoded, hReference, Value.asStr, expect, require, hArtifact,
      except_ok_bind, pure, Except.pure]
  have hEntry : normalizeFilename field partType
      (mediaPart partType mimeType (.artifact artifactId) filename) =
        .ok (filenameEntry filename) := by
    cases filename with
    | none => simp [normalizeFilename, hHasName, filenameEntry, pure, Except.pure]
    | some name =>
        obtain ⟨hFile, hPlain⟩ := hFilename name rfl
        rw [normalizeFilename, if_pos ⟨hFile, by simpa using hHasName⟩]
        exact except_bind_eq_ok.mpr ⟨name, by rw [hName]; rfl, except_bind_eq_ok.mpr
          ⟨(), require_eq_ok.mpr hPlain, rfl⟩⟩
  refine except_bind_eq_ok.mpr ⟨(), require_eq_ok.mpr (by rw [hKnown]; rfl), ?_⟩
  refine except_bind_eq_ok.mpr ⟨mimeType, by rw [hMimeType]; exact hRead, ?_⟩
  refine except_bind_eq_ok.mpr ⟨(), require_eq_ok.mpr hCategory, ?_⟩
  refine except_bind_eq_ok.mpr ⟨(), require_eq_ok.mpr (by rw [hEncoded, hHas]; rfl), ?_⟩
  exact except_bind_eq_ok.mpr ⟨_, hSource, except_bind_eq_ok.mpr ⟨_, hEntry, rfl⟩⟩

/-- A canonical part without bytes normalizes to itself. -/
theorem CanonicalPart.fixed {index partIndex : Nat} {part : Value} (hPart : CanonicalPart part)
    (hFree : WithoutBytes part) :
    normalizeContentPart index partIndex mediaBytes part = .ok (part, mediaBytes) := by
  cases hPart with
  | ofText body => rfl
  | @ofMedia partType mimeType source filename hType hMime hSource hFilename =>
      cases source with
      | inline data =>
          have hBytes := hFree _ rfl
          simp [mediaPart, MediaSource.entry, Dict.has] at hBytes
      | artifact artifactId =>
          have hKind : (mediaPart partType mimeType (.artifact artifactId) filename).get "type" =
              .str partType := mediaPart_reads.1
          have hNotText : partType ≠ text "text" := by
            rintro rfl
            simp at hType
          have hMember : memberOf (.str partType) [text "image", text "audio",
              text "file"] = .ok true :=
            memberOf_eq_ok.mpr ⟨rfl, by simpa [Value.asStr] using hType⟩
          refine except_bind_eq_ok.mpr ⟨_, rfl, ?_⟩
          dsimp only
          rw [hKind, if_neg (by simpa using hNotText)]
          exact except_bind_eq_ok.mpr ⟨true, hMember, except_bind_eq_ok.mpr
            ⟨(), rfl, mediaPart_fixed hMime hSource hFilename⟩⟩

end Parts

section Tools

variable {field : Str} {index : Nat} {value : Value}

theorem requireNonEmptyString_canonical {s : Str}
    (h : requireNonEmptyString value field = .ok s) : Trimmed s := by
  obtain ⟨raw, _, hBlank, rfl⟩ := requireNonEmptyString_eq_ok.mp h
  exact trimmed_strip hBlank

theorem requireNonEmptyString_fixed {s : Str} (hTrimmed : Trimmed s) :
    requireNonEmptyString (.str s) field = .ok s :=
  requireNonEmptyString_eq_ok.mpr ⟨s, rfl, hTrimmed.2, hTrimmed.1.symm⟩

/-- Storing the present text, object or flag again changes nothing. -/
theorem Dict.setSome_same {d : Dict} {key : Str} {option : Option Value}
    (h : ∀ v, option = some v → d.get key = v ∧ v ≠ .none) : d.setSome key option = d := by
  cases option with
  | none => rfl
  | some v =>
      obtain ⟨hGet, hSome⟩ := h v rfl
      rw [← hGet] at hSome ⊢
      exact Dict.set_eq_self (Dict.lookup_eq_of_get_ne hSome)

/-- A stored value that is not null is the one a second store would write. -/
theorem Dict.set_get {d : Dict} {key : Str} (hGet : d.get key = value) (hSome : value ≠ .none) :
    d.set key value = d := by
  subst hGet
  exact Dict.set_eq_self (Dict.lookup_eq_of_get_ne hSome)

/-- The fields of a normalized tool call. -/
structure ToolCallFields (call function : Dict) (callId name arguments : Str) : Prop where
  idTrimmed : Trimmed callId
  nameTrimmed : Trimmed name
  id : call.get "id" = .str callId
  kind : call.get "type" = .str "function"
  body : call.get "function" = .dict function
  name : function.get "name" = .str name
  arguments : function.get "arguments" = .str arguments

/-- What `_normalize_tool_calls` makes of one call. -/
def CanonicalToolCall (value : Value) : Prop :=
  ∃ call function callId name arguments,
    value = .dict call ∧ ToolCallFields call function callId name arguments

theorem normalizeToolCall_canonical {callIndex : Nat} {out : Value}
    (h : normalizeToolCall index callIndex value = .ok out) : CanonicalToolCall out := by
  obtain ⟨call, _, hId⟩ := except_bind_eq_ok.mp h
  obtain ⟨callId, hCallId, hType⟩ := except_bind_eq_ok.mp hId
  obtain ⟨_, _, hFunction⟩ := except_bind_eq_ok.mp hType
  obtain ⟨rawFunction, _, hName⟩ := except_bind_eq_ok.mp hFunction
  obtain ⟨name, hNamed, hArguments⟩ := except_bind_eq_ok.mp hName
  obtain ⟨arguments, _, hOut⟩ := except_bind_eq_ok.mp hArguments
  cases hOut
  refine ⟨_, (rawFunction.set "name" (.str name)).set "arguments" (.str arguments), callId, name,
    arguments, rfl, ?_⟩
  exact {
    id := by simp [Dict.get_set_of_ne]
    kind := by simp [Dict.get_set_of_ne]
    body := by simp
    name := by simp [Dict.get_set_of_ne]
    arguments := by simp
    idTrimmed := requireNonEmptyString_canonical hCallId
    nameTrimmed := requireNonEmptyString_canonical hNamed }

theorem CanonicalToolCall.fixed (h : CanonicalToolCall value) (callIndex : Nat) :
    normalizeToolCall index callIndex value = .ok value := by
  obtain ⟨call, function, callId, name, arguments, rfl, hFields⟩ := h
  have hType : Dict.getD call "type" (.str "function") = .str "function" := by
    rw [Dict.getD_of_get_ne (by simp [hFields.kind]), hFields.kind]
  have hArguments : function.getD "arguments" (.str []) = .str arguments := by
    rw [Dict.getD_of_get_ne (by simp [hFields.arguments]), hFields.arguments]
  refine except_bind_eq_ok.mpr ⟨call, rfl, ?_⟩
  refine except_bind_eq_ok.mpr
    ⟨callId, by rw [hFields.id]; exact requireNonEmptyString_fixed hFields.idTrimmed, ?_⟩
  refine except_bind_eq_ok.mpr ⟨(), require_eq_ok.mpr (by simp [hType]), ?_⟩
  refine except_bind_eq_ok.mpr ⟨function, by rw [hFields.body]; rfl, ?_⟩
  refine except_bind_eq_ok.mpr
    ⟨name, by rw [hFields.name]; exact requireNonEmptyString_fixed hFields.nameTrimmed, ?_⟩
  refine except_bind_eq_ok.mpr ⟨arguments, by rw [hArguments]; rfl, ?_⟩
  dsimp only
  rw [Dict.set_get hFields.name (by simp), Dict.set_get hFields.arguments (by simp),
    Dict.set_get hFields.id (by simp), Dict.set_get hFields.kind (by simp),
    Dict.set_get hFields.body (by simp)]
  rfl

/-- What `_normalize_tool_calls` returns. -/
def CanonicalToolCalls (value : Value) : Prop :=
  ∃ calls, value = .list calls ∧ calls ≠ [] ∧ ∀ call ∈ calls, CanonicalToolCall call

theorem normalizeToolCalls_canonical {out : Value}
    (h : normalizeToolCalls value index = .ok out) : CanonicalToolCalls out := by
  obtain ⟨raws, _, hSome⟩ := except_bind_eq_ok.mp h
  obtain ⟨_, hNotEmpty, hEach⟩ := except_bind_eq_ok.mp hSome
  obtain ⟨calls, hCalls, hOut⟩ := except_bind_eq_ok.mp hEach
  cases hOut
  have hItems : List.Forall₂ (fun _ call => CanonicalToolCall call) raws calls :=
    forall₂_of_each (fun _ _ _ _ h => normalizeToolCall_canonical h) hCalls
  refine ⟨calls, rfl, ?_, fun call hCall => ?_⟩
  · rintro rfl
    cases hItems
    simp [require_eq_ok] at hNotEmpty
  · exact forall_of_forall₂ hItems (fun _ _ _ h => h) call hCall

theorem CanonicalToolCalls.fixed (h : CanonicalToolCalls value) :
    normalizeToolCalls value index = .ok value := by
  obtain ⟨calls, rfl, hSome, hCalls⟩ := h
  have hEach : each (normalizeToolCall index) 0 calls = .ok calls :=
    each_of_forall₂ (List.forall₂_same.mpr fun call hCall callIndex =>
      (hCalls call hCall).fixed callIndex) 0
  refine except_bind_eq_ok.mpr ⟨calls, rfl, except_bind_eq_ok.mpr ⟨(), ?_, ?_⟩⟩
  · exact require_eq_ok.mpr (by simpa using hSome)
  · exact except_bind_eq_ok.mpr ⟨calls, hEach, rfl⟩

/-- The fields of a normalized tool. -/
structure ToolFields (tool function : Dict) (name : Str) : Prop where
  nameTrimmed : Trimmed name
  kind : tool.get "type" = .str "function"
  body : tool.get "function" = .dict function
  name : function.get "name" = .str name
  description : function.get "description" = .none ∨ ∃ s, function.get "description" = .str s
  parameters : function.get "parameters" = .none ∨ ∃ d, function.get "parameters" = .dict d
  strict : function.get "strict" = .none ∨ ∃ b, function.get "strict" = .bool b

/-- What `_normalize_tool` returns. -/
def CanonicalTool (tool : Dict) : Prop := ∃ function name, ToolFields tool function name

/-- The copies of optional fields leave the function as it is. -/
theorem normalizeTool_copies (rawFunction : Dict) (name : Str) :
    (((rawFunction.set "name" (.str name)).setSome "description"
      ((rawFunction.get "description").asStr.map .str)).setSome "parameters"
        ((rawFunction.get "parameters").asDict.map .dict)).setSome "strict"
          ((rawFunction.get "strict").asBool.map .bool) = rawFunction.set "name" (.str name) := by
  have hDescription := @Dict.setSome_same (rawFunction.set "name" (.str name))
    "description" ((rawFunction.get "description").asStr.map .str) (by
      intro v hv
      obtain ⟨s, hs, rfl⟩ := Option.map_eq_some_iff.mp hv
      exact ⟨by simpa [Dict.get_set_of_ne] using hs, by simp⟩)
  have hParameters := @Dict.setSome_same (rawFunction.set "name" (.str name))
    "parameters" ((rawFunction.get "parameters").asDict.map .dict) (by
      intro v hv
      obtain ⟨s, hs, rfl⟩ := Option.map_eq_some_iff.mp hv
      exact ⟨by simpa [Dict.get_set_of_ne] using hs, by simp⟩)
  have hStrict := @Dict.setSome_same (rawFunction.set "name" (.str name))
    "strict" ((rawFunction.get "strict").asBool.map .bool) (by
      intro v hv
      obtain ⟨s, hs, rfl⟩ := Option.map_eq_some_iff.mp hv
      exact ⟨by simpa [Dict.get_set_of_ne] using hs, by simp⟩)
  rw [hDescription, hParameters, hStrict]

theorem isNone_or_isSome {α : Type} {view : Value → Option α} {wrap : α → Value}
    (hView : ∀ v a, view v = some a ↔ v = wrap a) :
    (value.isNone || (view value).isSome) = true ↔ value = .none ∨ ∃ a, value = wrap a := by
  rw [Bool.or_eq_true, Value.isNone_eq_true, Option.isSome_iff_exists]
  simp [hView]

theorem normalizeTool_canonical {out : Dict} (h : normalizeTool index value = .ok out) :
    CanonicalTool out := by
  obtain ⟨tool, _, hType⟩ := except_bind_eq_ok.mp h
  obtain ⟨_, _, hFunction⟩ := except_bind_eq_ok.mp hType
  obtain ⟨rawFunction, _, hName⟩ := except_bind_eq_ok.mp hFunction
  obtain ⟨name, hNamed, hDescription⟩ := except_bind_eq_ok.mp hName
  obtain ⟨_, hDescribed, hParameters⟩ := except_bind_eq_ok.mp hDescription
  obtain ⟨_, hParametrized, hStrict⟩ := except_bind_eq_ok.mp hParameters
  obtain ⟨_, hFlag, hOut⟩ := except_bind_eq_ok.mp hStrict
  dsimp only at hOut
  rw [normalizeTool_copies] at hOut
  cases hOut
  rw [require_eq_ok] at hDescribed hParametrized hFlag
  refine ⟨rawFunction.set "name" (.str name), name, ?_⟩
  exact {
    kind := by simp [Dict.get_set_of_ne]
    body := by simp
    name := by simp
    nameTrimmed := requireNonEmptyString_canonical hNamed
    description := by
      simpa [Dict.get_set_of_ne] using
        (isNone_or_isSome (fun _ _ => Value.asStr_eq_some)).mp hDescribed
    parameters := by
      simpa [Dict.get_set_of_ne] using
        (isNone_or_isSome (fun _ _ => Value.asDict_eq_some)).mp hParametrized
    strict := by
      simpa [Dict.get_set_of_ne] using
        (isNone_or_isSome (fun _ _ => Value.asBool_eq_some)).mp hFlag }

theorem CanonicalTool.fixed {tool : Dict} (h : CanonicalTool tool) (index : Nat) :
    normalizeTool index (.dict tool) = .ok tool := by
  obtain ⟨function, name, hFields⟩ := h
  refine except_bind_eq_ok.mpr ⟨tool, rfl, ?_⟩
  refine except_bind_eq_ok.mpr ⟨(), require_eq_ok.mpr (by simp [hFields.kind]), ?_⟩
  refine except_bind_eq_ok.mpr ⟨function, by rw [hFields.body]; rfl, ?_⟩
  refine except_bind_eq_ok.mpr
    ⟨name, by rw [hFields.name]; exact requireNonEmptyString_fixed hFields.nameTrimmed, ?_⟩
  refine except_bind_eq_ok.mpr ⟨(), require_eq_ok.mpr
    ((isNone_or_isSome (fun _ _ => Value.asStr_eq_some)).mpr hFields.description), ?_⟩
  refine except_bind_eq_ok.mpr ⟨(), require_eq_ok.mpr
    ((isNone_or_isSome (fun _ _ => Value.asDict_eq_some)).mpr hFields.parameters), ?_⟩
  refine except_bind_eq_ok.mpr ⟨(), require_eq_ok.mpr
    ((isNone_or_isSome (fun _ _ => Value.asBool_eq_some)).mpr hFields.strict), ?_⟩
  dsimp only
  rw [normalizeTool_copies, Dict.set_get hFields.name (by simp),
    Dict.set_get hFields.kind (by simp), Dict.set_get hFields.body (by simp)]
  rfl

/-- What `_normalize_tool_choice` returns. -/
inductive CanonicalToolChoice : Value → Prop
  | mode {mode : Str} (hMode : mode ∈ [text "none", text "auto", text "required"]) :
      CanonicalToolChoice (.str mode)
  | function {name : Str} (hName : Trimmed name) :
      CanonicalToolChoice (.dict [("type", .str "function"), ("function", .dict [("name", .str name)])])

theorem normalizeToolChoice_canonical {out : Value} (h : normalizeToolChoice value = .ok out) :
    CanonicalToolChoice out := by
  unfold normalizeToolChoice at h
  split at h
  · obtain ⟨_, hMode, hOut⟩ := except_bind_eq_ok.mp h
    cases hOut
    exact .mode (List.contains_iff_mem.mp (require_eq_ok.mp hMode))
  · obtain ⟨choice, _, hType⟩ := except_bind_eq_ok.mp h
    obtain ⟨_, _, hFunction⟩ := except_bind_eq_ok.mp hType
    obtain ⟨function, _, hName⟩ := except_bind_eq_ok.mp hFunction
    obtain ⟨name, hNamed, hOut⟩ := except_bind_eq_ok.mp hName
    cases hOut
    exact .function (requireNonEmptyString_canonical hNamed)

theorem CanonicalToolChoice.fixed (h : CanonicalToolChoice value) :
    normalizeToolChoice value = .ok value := by
  cases h with
  | mode hMode =>
      exact except_bind_eq_ok.mpr ⟨(), require_eq_ok.mpr (List.contains_iff_mem.mpr hMode), rfl⟩
  | function hName =>
      refine except_bind_eq_ok.mpr ⟨_, rfl, except_bind_eq_ok.mpr ⟨(), rfl, ?_⟩⟩
      refine except_bind_eq_ok.mpr ⟨_, rfl, except_bind_eq_ok.mpr ⟨_, ?_, rfl⟩⟩
      exact requireNonEmptyString_fixed hName

theorem normalizeStreamOptions_canonical {out : Dict}
    (h : normalizeStreamOptions value = .ok out) :
    ∃ includeUsage, out = [(text "include_usage", .bool includeUsage)] := by
  obtain ⟨options, _, hUnknown⟩ := except_bind_eq_ok.mp h
  obtain ⟨_, _, hUsage⟩ := except_bind_eq_ok.mp hUnknown
  obtain ⟨includeUsage, _, hOut⟩ := except_bind_eq_ok.mp hUsage
  cases hOut
  exact ⟨includeUsage, rfl⟩

theorem normalizeStreamOptions_fixed (includeUsage : Bool) :
    normalizeStreamOptions (.dict [(text "include_usage", .bool includeUsage)]) =
      .ok [(text "include_usage", .bool includeUsage)] := rfl

end Tools

section Messages

variable {index mediaBytes : Nat} {role : Str} {content : Value}

/-- What the content branch leaves in a message of this role. -/
inductive CanonicalContent (role : Str) : Value → Prop
  | parts {parts : List Value} (hRole : role ≠ text "tool") (hSome : parts ≠ [])
      (hLength : parts.length ≤ maxChatContentParts) (hParts : ∀ part ∈ parts, CanonicalPart part) :
      CanonicalContent role (.tuple parts)
  | ofText {s : Str} (hEncodes : s.hasSurrogate = false)
      (hSize : (s.map Str.utf8Width).sum ≤ maxChatMediaBytes) : CanonicalContent role (.str s)
  | null (hRole : role = text "assistant") : CanonicalContent role .none

/-- The parts of a sequence hold no encoded media. -/
def NothingEncoded (content : Value) : Prop :=
  ∀ parts, content.asSequence = some parts → ∀ part : Dict, .dict part ∈ parts →
    part.has "data_base64" = false

/-- The parts of a sequence hold no media bytes. -/
def NoBytes (content : Value) : Prop :=
  ∀ parts, content.asSequence = some parts → ∀ part ∈ parts, WithoutBytes part

/-- The fields of a normalized message. -/
structure MessageFields (message : Dict) (role : Str) (content : Value) : Prop where
  known : role ∈ roleNames
  field : message.get "role" = .str role
  present : message.lookup (text "content") = some content
  shape : CanonicalContent role content
  name : message.get "name" = .none ∨ ∃ s, message.get "name" = .str s
  toolCallId : message.get "tool_call_id" = .none ∨ ∃ s, message.get "tool_call_id" = .str s
  answers : role = text "tool" → ∃ s, message.get "tool_call_id" = .str s ∧ s.isBlank = false
  toolCalls : message.has "tool_calls" = true →
    role = text "assistant" ∧ CanonicalToolCalls (message.get "tool_calls")

/-- What `_normalize_message` returns. -/
def CanonicalMessage (message : Dict) : Prop := ∃ role content, MessageFields message role content

theorem checkContentSize_eq_ok {u : Unit} : checkContentSize index content = .ok u ↔
    ∀ s, content = .str s →
      s.hasSurrogate = false ∧ (s.map Str.utf8Width).sum ≤ maxChatMediaBytes := by
  cases content with
  | str s =>
      simp only [checkContentSize, Value.asStr, except_bind_eq_ok, encodedLength_eq_ok,
        require_eq_ok, decide_eq_true_eq, Value.str.injEq]
      constructor
      · rintro ⟨_, ⟨hEncodes, rfl⟩, hSize⟩ _ rfl
        exact ⟨hEncodes, hSize⟩
      · intro h
        exact ⟨_, ⟨(h s rfl).1, rfl⟩, (h s rfl).2⟩
  | _ => simp [checkContentSize, Value.asStr, pure, Except.pure]

/-- Content that was accepted is canonical; references cost no bytes. -/
theorem normalizeContent_canonical {out : Value × Nat}
    (hContent : normalizeContent index mediaBytes role content = .ok out)
    (hNull : (!out.1.isNone || decide (role = text "assistant")) = true)
    (hSize : checkContentSize index out.1 = .ok ()) :
    CanonicalContent role out.1 ∧ (NothingEncoded content → NoBytes out.1 ∧ out.2 = mediaBytes) := by
  rcases normalizeContent_eq_ok.mp hContent with
    ⟨parts, results, total, hParts, hRole, hSome, hLength, hPass, rfl⟩ | ⟨hParts, hKind, rfl⟩
  · have hItems := (@forall₂_of_pass _ _ _ _ _ fun item part => CanonicalPart part ∧
      ((∀ d : Dict, item = .dict d → d.has "data_base64" = false) → WithoutBytes part))
      (fun _ _ _ _ _ h => ⟨(normalizeContentPart_canonical h).1,
        fun hNone => ((normalizeContentPart_canonical h).2 hNone).1⟩) hPass
    have hFilled : results ≠ [] := by
      rintro rfl
      exact hSome (List.forall₂_nil_right_iff.mp hItems)
    refine ⟨.parts hRole hFilled (hItems.length_eq ▸ hLength)
      (forall_of_forall₂ hItems fun _ _ _ h => h.1), fun hNone => ⟨?_, ?_⟩⟩
    · rintro _ ⟨⟩
      exact forall_of_forall₂ hItems fun item hItem _ h =>
        h.2 fun d hd => hNone parts hParts d (hd ▸ hItem)
    · exact pass_total (fun item hItem _ _ _ h => ((normalizeContentPart_canonical h).2
        fun d hd => hNone parts hParts d (hd ▸ hItem)).2) hPass
  · refine ⟨?_, fun _ => ⟨fun parts h => ?_, rfl⟩⟩
    · rcases hKind with rfl | ⟨s, rfl⟩
      · exact .null (by simpa [Value.isNone] using hNull)
      · obtain ⟨hEncodes, hFits⟩ := checkContentSize_eq_ok.mp hSize s rfl
        exact .ofText hEncodes hFits
    · rw [hParts] at h
      cases h

/-- Canonical content without bytes normalizes to itself. -/
theorem CanonicalContent.fixed (h : CanonicalContent role content) (hBytes : NoBytes content) :
    normalizeContent index mediaBytes role content = .ok (content, mediaBytes) ∧
      (!content.isNone || decide (role = text "assistant")) = true ∧
        checkContentSize index content = .ok () := by
  cases h with
  | @parts parts hRole hSome hLength hParts =>
      have hPass : pass (normalizeContentPart index) 0 mediaBytes parts = .ok (parts, mediaBytes) :=
        pass_of_forall₂ (List.forall₂_same.mpr fun part hPart _ =>
          (hParts part hPart).fixed (hBytes parts rfl part hPart)) 0
      refine ⟨normalizeContent_eq_ok.mpr (.inl ⟨parts, parts, mediaBytes, rfl, hRole, hSome,
        hLength, hPass, rfl⟩), rfl, rfl⟩
  | @ofText s hEncodes hSize =>
      refine ⟨rfl, rfl, checkContentSize_eq_ok.mpr ?_⟩
      rintro _ ⟨⟩
      exact ⟨hEncodes, hSize⟩
  | null hRole => exact ⟨rfl, by simp [hRole], rfl⟩

theorem checkToolCallId_eq_ok {value : Value} {u : Unit} :
    checkToolCallId index role value = .ok u ↔
      (role = text "tool" → ∃ s, value = .str s ∧ s.isBlank = false) := by
  unfold checkToolCallId
  split
  · rename_i hTool
    simp only [hTool, forall_const]
    constructor
    · intro h
      obtain ⟨_, hRead, -⟩ := except_bind_eq_ok.mp h
      obtain ⟨s, hText, hBlank, -⟩ := requireNonEmptyString_eq_ok.mp hRead
      exact ⟨s, hText, hBlank⟩
    · rintro ⟨s, rfl, hBlank⟩
      exact except_bind_eq_ok.mpr
        ⟨s.strip, requireNonEmptyString_eq_ok.mpr ⟨s, rfl, hBlank, rfl⟩, rfl⟩
  · rename_i hTool
    simp [hTool, pure, Except.pure]

/-- An accepted message is canonical; references cost no bytes. -/
theorem normalizeMessage_canonical {raw : Dict} {out : Dict × Nat}
    (h : normalizeMessage index mediaBytes raw = .ok out) :
    ∃ role content, MessageFields out.1 role content ∧
      (NothingEncoded (raw.get "content") → NoBytes content ∧ out.2 = mediaBytes) := by
  obtain ⟨role, hRole, hRest⟩ := except_bind_eq_ok.mp h
  obtain ⟨⟨content, total⟩, hContent, hBody⟩ := except_bind_eq_ok.mp hRest
  obtain ⟨_, hNull, hSized⟩ := except_bind_eq_ok.mp hBody
  obtain ⟨_, hSize, hNames⟩ := except_bind_eq_ok.mp hSized
  obtain ⟨_, hName, hIds⟩ := except_bind_eq_ok.mp hNames
  obtain ⟨_, hCallId, hAnswer⟩ := except_bind_eq_ok.mp hIds
  obtain ⟨_, hAnswers, hOut⟩ := except_bind_eq_ok.mp hAnswer
  rw [normalizeHeader_eq_ok] at hRole
  rw [require_eq_ok] at hNull hName hCallId
  rw [isNone_or_isSome (fun _ _ => Value.asStr_eq_some)] at hName hCallId
  rw [checkToolCallId_eq_ok] at hAnswers
  obtain ⟨hShape, hBytes⟩ := normalizeContent_canonical hContent hNull hSize
  split at hOut
  · rename_i hHas
    obtain ⟨toolCalls, hToolCalls, hOut⟩ := except_bind_eq_ok.mp hOut
    cases hOut
    refine ⟨role, content, ?_, hBytes⟩
    exact {
      known := hRole.known
      field := by simp [Dict.get_set_of_ne]
      present := by simp [Dict.lookup_set_of_ne]
      shape := hShape
      name := by simpa [Dict.get_set_of_ne] using hName
      toolCallId := by simpa [Dict.get_set_of_ne] using hCallId
      answers := by simpa [Dict.get_set_of_ne] using hAnswers
      toolCalls := fun _ => ⟨hRole.toolCalls hHas, by
        simpa using normalizeToolCalls_canonical hToolCalls⟩ }
  · rename_i hHas
    cases hOut
    refine ⟨role, content, ?_, hBytes⟩
    exact {
      known := hRole.known
      field := by simp [Dict.get_set_of_ne]
      present := by simp
      shape := hShape
      name := hName
      toolCallId := hCallId
      answers := hAnswers
      toolCalls := fun hCalls => by
        simp [Dict.has_set_of_ne] at hCalls
        exact absurd hCalls hHas }

/-- A canonical message without bytes normalizes to itself. -/
theorem MessageFields.fixed {message : Dict} (h : MessageFields message role content)
    (hBytes : NoBytes content) :
    normalizeMessage index mediaBytes message = .ok (message, mediaBytes) := by
  have hHas : message.has "content" = true := by rw [Dict.has, h.present]; rfl
  have hContent : message.get "content" = content := by rw [Dict.get, Dict.getD, h.present]; rfl
  have hHeader : HeaderAdmitted message role :=
    ⟨h.known, h.field, fun hCalls => (h.toolCalls hCalls).1, .inl hHas⟩
  obtain ⟨hFixed, hNull, hSize⟩ := @CanonicalContent.fixed index mediaBytes _ _ h.shape hBytes
  have hCopy : (message.set "role" (.str role)).set "content" content = message := by
    rw [Dict.set_get h.field (by simp), Dict.set_eq_self h.present]
  refine except_bind_eq_ok.mpr ⟨role, normalizeHeader_eq_ok.mpr hHeader, ?_⟩
  refine except_bind_eq_ok.mpr ⟨(content, mediaBytes), by rw [hContent]; exact hFixed, ?_⟩
  refine except_bind_eq_ok.mpr ⟨(), require_eq_ok.mpr hNull, ?_⟩
  refine except_bind_eq_ok.mpr ⟨(), hSize, ?_⟩
  dsimp only
  rw [hCopy]
  refine except_bind_eq_ok.mpr ⟨(), require_eq_ok.mpr
    ((isNone_or_isSome (fun _ _ => Value.asStr_eq_some)).mpr h.name), ?_⟩
  refine except_bind_eq_ok.mpr ⟨(), require_eq_ok.mpr
    ((isNone_or_isSome (fun _ _ => Value.asStr_eq_some)).mpr h.toolCallId), ?_⟩
  refine except_bind_eq_ok.mpr ⟨(), checkToolCallId_eq_ok.mpr h.answers, ?_⟩
  split
  · rename_i hCalls
    have hToolCalls := (h.toolCalls hCalls).2
    have hSet : message.set "tool_calls" (message.get "tool_calls") = message :=
      Dict.set_eq_self (Dict.lookup_of_has hCalls)
    exact except_bind_eq_ok.mpr ⟨_, hToolCalls.fixed, by rw [hSet]; rfl⟩
  · rfl

end Messages

end CyreneExchange.Gateway
