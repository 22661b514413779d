import ApiContract.Proofs.Text.Blank
import ApiContract.Proofs.Traffic.Reply
import ApiContract.Validator

/-!
# Proofs/Traffic/ContentType — what of a content type counts

Of the content type of an exchange only the essence is looked at, and neither the case of ASCII
letters, nor blanks around, nor parameters behind a semicolon are part of that (`Media.Respelled`,
`Media.Respelled.essence_eq`).  A media type is recognized when its name is written there in any
case (`Media.normalize_eq_some_iff`), and the essence is its own essence (`Media.essence_essence`).
**`Media.respelled_alike`** draws the conclusion: exchanges whose content types are respelled get
the same verdict, with the same words.
-/

namespace ApiContract

namespace Media

/-- The characters before the first semicolon, without the blanks at the ends. -/
def writtenChars (cs : List Char) : List Char := Text.trimChars (cs.takeWhile (· ≠ ';'))

/-- **What is written of the media type**: the text before the first semicolon, trimmed. -/
def written (header : String) : String := String.ofList (writtenChars header.toList)

/-- **A content type is respelled**: letters of ASCII change their case, blanks are put around, and
a semicolon and any text may be put behind. -/
inductive Respelled (t : String) : String → Prop
  | padded {before core after : String} (ahead : ∀ c ∈ before.toList, Text.isBlank c = true)
    (letters : Text.Recased t core) (behind : ∀ c ∈ after.toList, Text.isBlank c = true) :
    Respelled t (before ++ core ++ after)
  | parameters {t' : String} (h : Respelled t t') (rest : String) : Respelled t (t' ++ ";" ++ rest)

section Written

variable {before cs after : List Char} {t t' s header : String} {m : Media}

theorem ne_semicolon_of_isBlank {c : Char} (h : Text.isBlank c = true) : c ≠ ';' := by
  rintro rfl
  exact absurd h (by decide)

theorem ne_semicolon_of_isAlpha {c : Char} (h : c.isAlpha = true) : c ≠ ';' := by
  rintro rfl
  exact absurd h (by decide)

theorem takeWhile_of_no_semicolon (h : ∀ c ∈ cs, c ≠ ';') : cs.takeWhile (· ≠ ';') = cs :=
  List.takeWhile_eq_self_iff.2 fun c hc => decide_eq_true (h c hc)

/-- Blanks around are not written. -/
theorem writtenChars_padded (ahead : ∀ c ∈ before, Text.isBlank c = true)
    (behind : ∀ c ∈ after, Text.isBlank c = true) :
    writtenChars (before ++ cs ++ after) = writtenChars cs := by
  have hahead : ∀ c ∈ before, decide (c ≠ ';') = true := fun c hc =>
    decide_eq_true (ne_semicolon_of_isBlank (ahead c hc))
  rw [writtenChars, writtenChars, List.append_assoc, List.takeWhile_append_of_pos hahead,
    List.takeWhile_append,
    takeWhile_of_no_semicolon fun c hc => ne_semicolon_of_isBlank (behind c hc)]
  split_ifs with hlength
  · -- there is no semicolon, and all is before it
    have hcs := (List.takeWhile_sublist (· ≠ ';')).eq_of_length hlength
    rw [hcs, ← List.append_assoc, Text.trimChars_padded ahead behind]
  · -- the blanks behind stand after a semicolon
    rw [← List.append_nil (before ++ _), Text.trimChars_padded ahead (List.forall_mem_nil _)]

/-- Neither are parameters. -/
theorem writtenChars_parameters (rest : List Char) :
    writtenChars (cs ++ ';' :: rest) = writtenChars cs := by
  have hcut : (cs ++ ';' :: rest).takeWhile (· ≠ ';') = cs.takeWhile (· ≠ ';') := by
    rw [List.takeWhile_append]
    split_ifs with hlength
    · rw [(List.takeWhile_sublist (· ≠ ';')).eq_of_length hlength]
      exact List.append_nil cs
    · rfl
  rw [writtenChars, writtenChars, hcut]

/-- What is written is folded with the whole. -/
theorem writtenChars_map_toLower :
    writtenChars (cs.map Char.toLower) = (writtenChars cs).map Char.toLower := by
  have hsemicolon : (fun c : Char => decide (c ≠ ';')) ∘ Char.toLower =
      fun c => decide (c ≠ ';') := by
    funext c
    rcases Text.toLower_eq_or c with h | ⟨h, h'⟩
    · exact congrArg (fun c => decide (c ≠ ';')) h
    · have hlower := ne_semicolon_of_isAlpha h'
      exact decide_eq_decide.2 (iff_of_true hlower (ne_semicolon_of_isAlpha h))
  rw [writtenChars, writtenChars, List.takeWhile_map, hsemicolon, Text.trimChars_map_toLower]

/-- What is written in recased headers is recased. -/
theorem written_recased (h : Text.Recased s t) : Text.Recased (written s) (written t) := by
  rw [Text.recased_iff] at h ⊢
  have hfold (s : String) : asciiLower (written s) = written (asciiLower s) := by
    rw [asciiLower, asciiLower, written, written, String.toList_ofList, String.toList_ofList,
      writtenChars_map_toLower]
  rw [hfold, h, ← hfold]

/-- The essence is what is written, in lower case. -/
theorem essence_eq_lowerCase_written (header : String) :
    essence header = Text.lowerCase (written header) := by
  rw [essence, Text.trim, String.toList_ofList, written, writtenChars]

/-- **A respelled content type has the same essence.** -/
theorem Respelled.essence_eq (h : Respelled t t') : essence t' = essence t := by
  induction h with
  | @padded before core after ahead letters behind =>
    have hpadded : written (before ++ core ++ after) = written core := by
      rw [written, String.toList_append, String.toList_append, writtenChars_padded ahead behind,
        written]
    rw [essence_eq_lowerCase_written, essence_eq_lowerCase_written, hpadded,
      (written_recased letters).lowerCase_eq]
  | @parameters t' h rest ih =>
    have hparameters : written (t' ++ ";" ++ rest) = written t' := by
      rw [written, String.toList_append, String.toList_append, List.append_assoc]
      exact congrArg String.ofList (writtenChars_parameters rest.toList)
    rw [essence_eq_lowerCase_written, hparameters, ← ih, essence_eq_lowerCase_written]

/-- A media type has a small name. -/
theorem name_small (m : Media) : Text.SmallWord m.name := by
  cases m <;> exact ⟨by decide, List.all_iff_forall_prop.1 (by decide)⟩

/-- **A media type is recognized** where its name is written in any letter case. -/
theorem normalize_eq_some_iff :
    (normalize header).2 = some m ↔ Text.Recased m.name (written header) := by
  rw [normalize, ofName?_eq_some_iff, eq_comm, essence_eq_lowerCase_written,
    (name_small m).lowerCase_eq_iff]

/-- Nothing more is cut from the lower case of what is written. -/
theorem writtenChars_lowerChars :
    writtenChars (Text.lowerChars before (writtenChars cs)) =
      Text.lowerChars before (writtenChars cs) := by
  have hwritten : ∀ c ∈ writtenChars cs, c ≠ ';' := fun c hc => by
    simpa using List.mem_takeWhile_imp (Text.mem_of_mem_trimChars hc)
  have hlower : ∀ d ∈ Text.lowerChars before (writtenChars cs), d ≠ ';' :=
    Text.forall_mem_lowerChars (by decide) (by decide) fun c hc _ d hd he =>
      hwritten c hc ((Text.eq_of_mem_lowerChar hd (he ▸ by decide)).symm.trans he)
  have hbare : Text.Bare (writtenChars cs) := Text.bare_trimChars _
  rw [writtenChars, takeWhile_of_no_semicolon hlower,
    Text.trimChars_of_bare (Text.bare_lowerChars hbare)]

/-- **The essence is its own essence.** -/
theorem essence_essence (header : String) : essence (essence header) = essence header := by
  have hwritten : written (essence header) = essence header := by
    rw [essence_eq_lowerCase_written, written, written, Text.lowerCase, String.toList_ofList,
      String.toList_ofList]
    exact congrArg String.ofList writtenChars_lowerChars
  calc
    essence (essence header) = Text.lowerCase (essence header) := by
      rw [essence_eq_lowerCase_written, hwritten]
    _ = Text.lowerCase (Text.lowerCase (written header)) := by rw [essence_eq_lowerCase_written]
    _ = essence header := by rw [lowerCase_lowerCase, essence_eq_lowerCase_written]

end Written

end Media

/-! ## Verdicts -/

section Verdicts

variable {t t' : String} (evaluate : Evaluator) (c : Contract)

/-- Requests whose content types have one essence have one verdict. -/
theorem checkRequest_of_essence_eq (h : Media.essence t' = Media.essence t) (r : Request) :
    c.checkRequest evaluate { r with contentType := some t' } =
      c.checkRequest evaluate { r with contentType := some t } := by
  unfold Contract.checkRequest checkRequestBody Media.normalize
  rw [Option.getD_some, Option.getD_some, h]

/-- So have responses. -/
theorem checkResponse_of_essence_eq (h : Media.essence t' = Media.essence t) (r : Reply) :
    c.checkResponse evaluate { r with contentType := some t' } =
      c.checkResponse evaluate { r with contentType := some t } := by
  unfold Contract.checkResponse checkResponseBody Media.normalize
  rw [Option.getD_some, Option.getD_some, h]

end Verdicts

/-- **How a content type is spelled never matters.**  Under every contract, a request with a
respelled content type gets the verdict of the request, and so does a response; and the calls on a
validator that loads its contract are answered alike, and leave it alike.  A media type is
recognized when what is written before the first semicolon is its name, up to the case of ASCII
letters; and a normal form is its own normal form. -/
theorem Media.respelled_alike :
    (∀ t t', Respelled t t' → ∀ evaluate : Evaluator,
      (∀ (c : Contract) (r : Request), c.checkRequest evaluate { r with contentType := some t' } =
        c.checkRequest evaluate { r with contentType := some t }) ∧
      (∀ (c : Contract) (r : Reply), c.checkResponse evaluate { r with contentType := some t' } =
        c.checkResponse evaluate { r with contentType := some t }) ∧
      ∀ (fetch : Fetcher) (now : Reading) (l : Lifecycle),
        (∀ r : Request, l.call evaluate fetch now (.request { r with contentType := some t' }) =
          l.call evaluate fetch now (.request { r with contentType := some t })) ∧
        ∀ r : Reply, l.call evaluate fetch now (.response { r with contentType := some t' }) =
          l.call evaluate fetch now (.response { r with contentType := some t })) ∧
    (∀ header m, (normalize header).2 = some m ↔ Text.Recased m.name (written header)) ∧
    ∀ header, normalize (normalize header).1 = normalize header := by
  refine ⟨fun t t' h evaluate => ?_, fun _ _ => normalize_eq_some_iff, fun header => ?_⟩
  · have hrequest (c : Contract) (r : Request) :=
      checkRequest_of_essence_eq evaluate c h.essence_eq r
    have hresponse (c : Contract) (r : Reply) :=
      checkResponse_of_essence_eq evaluate c h.essence_eq r
    refine ⟨hrequest, hresponse, fun fetch now l => ⟨fun r => ?_, fun r => ?_⟩⟩
    · simp only [Lifecycle.call, Lifecycle.answer, hrequest]
    · simp only [Lifecycle.call, Lifecycle.answer, hresponse]
  · rw [normalize, normalize, essence_essence]

/-- The messages are those for the name of the media type, however it was spelled. -/
theorem Media.respelled_textPlain :
    Respelled "text/plain" "\u00a0Text/PLAIN\t; charset=utf-8" ∧
      Contract.checkRequest (fun _ _ => .ok ()) ⟨[anyPetPath]⟩
          ⟨"GET", "/pet", [], some "\u00a0Text/PLAIN\t; charset=utf-8", some "Rex"⟩ =
        .error (.bodyUndeclared "text/plain" ⟨"/pet", "get"⟩) ∧
      Contract.checkResponse (fun _ _ => .ok ()) ⟨[anyPetPath]⟩
          ⟨"GET", "/pet", 200, some "\u00a0Text/PLAIN\t; charset=utf-8", some "Rex"⟩ =
        .error (.responseMedia "text/plain" 200 ⟨"/pet", "get"⟩) := by
  have hletters : Text.Recased "text/plain" "Text/PLAIN" := Text.recased_iff.2 (by decide)
  have hpadded : Respelled "text/plain" ("\u00a0" ++ "Text/PLAIN" ++ "\t") :=
    .padded (List.all_eq_true.1 rfl) hletters (List.all_eq_true.1 rfl)
  have hrespelled : Respelled "text/plain" "\u00a0Text/PLAIN\t; charset=utf-8" :=
    hpadded.parameters " charset=utf-8"
  have h := Media.respelled_alike.1 _ _ hrespelled fun _ _ => .ok ()
  exact ⟨hrespelled, (h.1 ⟨[anyPetPath]⟩ ⟨"GET", "/pet", [], none, some "Rex"⟩).trans rfl,
    (h.2.1 ⟨[anyPetPath]⟩ ⟨"GET", "/pet", 200, none, some "Rex"⟩).trans rfl⟩

end ApiContract
