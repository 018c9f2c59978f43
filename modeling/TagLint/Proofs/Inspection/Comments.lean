import TagLint.Proofs.Expiry.Deadline
import TagLint.Proofs.Inspection
import TagLint.Proofs.Tag.Comment
/-!
What is said about a tag, whatever comment it stands in. The messages of a one-line document depend
on the kind of the tag and on the rest of the line behind its name, and not on what opens the
comment. What closes the comment on the same line belongs to the rest: it spoils every expiry
payload, and in a sync payload it is one more token.
-/

namespace TagLint

open Calendar

/-! ## Messages about a payload -/

/-- The messages about an expiry payload. -/
def Expiry.told (policy : Policy) (now : Instant) (payload : Text) :
    Except Failure (List Text) :=
  if (Text.find? placeholder payload).isSome then .ok []
  else
    match ofPayload? payload with
    | none => .ok (if policy.warnOnInvalid then [invalidMessage] else [])
    | some e => do
      let deadline ← addGrace e.expiresAt policy.graceDays
      return if now.isAfter deadline then [expiredMessage e] else []

/-- The messages about the targets of a sync payload. -/
def Reference.messages (targets : List Target) : List Text :=
  (targets.filterMap Target.obstacle?).map Obstacle.message

/-- What findings depend on apart from the text of the document. -/
structure Circumstances where
  settings : Settings
  workspace : Workspace
  path : Text
  language : Option Text
  now : Instant

namespace Circumstances

/-- The messages about a kind of tag with a payload. -/
def told (x : Circumstances) : Tag.Kind → Text → Except Failure (List Text)
  | .expiry, payload =>
    if x.settings.expiry.enabled then Expiry.told x.settings.expiry x.now payload else .ok []
  | .sync, payload =>
    if x.settings.sync.isActive then
      (Reference.targets x.workspace x.path payload false).map Reference.messages
    else .ok []

/-- The messages of the findings about a document of this text. -/
def messages (x : Circumstances) (text : Text) : Except Failure (List Text) :=
  ((Document.ofText x.path text x.language).findings x.settings x.workspace x.now).map
    (List.map Finding.message)

end Circumstances

theorem Expiry.map_message_judge {policy : Policy} {now : Instant} {tag : Tag}
    (hkind : tag.kind = .expiry) :
    (judge policy now tag).map (fun found => found.toList.map Finding.message) =
      told policy now tag.payload := by
  unfold judge told
  rw [if_neg (not_not.mpr hkind)]
  split
  · rfl
  · cases ofPayload? tag.payload with
    | none => cases policy.warnOnInvalid <;> rfl
    | some e =>
      dsimp only
      cases addGrace e.expiresAt policy.graceDays with
      | error failure => rfl
      | ok deadline =>
        rw [Traverse.ok_bind, Traverse.ok_bind]
        cases now.isAfter deadline <;> rfl

theorem Reference.map_message_judge (w : Workspace) (document : Text) {tag : Tag}
    (hkind : tag.kind = .sync) :
    (judge w document tag).map (List.map Finding.message) =
      (targets w document tag.payload false).map messages := by
  unfold judge
  rw [if_neg (not_not.mpr hkind)]
  cases targets w document tag.payload false with
  | error failure => rfl
  | ok ts =>
    show Except.ok _ = Except.ok _
    rw [messages, List.map_map]
    rfl

theorem Expiry.findings_singleton (policy : Policy) (now : Instant) (tag : Tag) :
    findings policy now [tag] =
      if policy.enabled then (judge policy now tag).map Option.toList else .ok [] := by
  unfold findings
  split
  · rw [List.mapM_cons, List.mapM_nil]
    cases judge policy now tag with
    | error failure => rfl
    | ok found => cases found <;> rfl
  · rfl

theorem Reference.findings_singleton (policy : Policy) (w : Workspace) (document : Text)
    (tag : Tag) :
    findings policy w document [tag] =
      if policy.isActive then judge w document tag else .ok [] := by
  unfold findings Policy.isActive
  split
  · rw [List.mapM_cons, List.mapM_nil]
    cases judge w document tag with
    | error failure => rfl
    | ok found =>
      show Except.ok [found].flatten = _
      rw [List.flatten_singleton]
  · rfl

/-- The findings about a document with one tag are those about that tag. -/
theorem Document.findings_of_tags_eq_singleton {d : Document} {tag : Tag} (htags : d.tags = [tag])
    (settings : Settings) (w : Workspace) (now : Instant) :
    d.findings settings w now = tag.judge settings w d.path now := by
  rw [findings, htags]
  cases hkind : tag.kind with
  | expiry =>
    have hexpiry : [tag].filter (fun t => t.kind = .expiry) = [tag] := by simp [hkind]
    have hsync : [tag].filter (fun t => t.kind = .sync) = [] := by simp [hkind]
    have hnone : Reference.findings settings.sync w d.path [] = .ok [] := by
      unfold Reference.findings
      split <;> rfl
    rw [Tag.judge_of_expiry hkind, hexpiry, hsync, hnone, Expiry.findings_singleton]
    generalize (if settings.expiry.enabled = true then _ else _) = result
    cases result with
    | error failure => rfl
    | ok fs =>
      show Except.ok (fs ++ []) = _
      rw [List.append_nil]
  | sync =>
    have hexpiry : [tag].filter (fun t => t.kind = .expiry) = [] := by simp [hkind]
    have hsync : [tag].filter (fun t => t.kind = .sync) = [tag] := by simp [hkind]
    have hnone : Expiry.findings settings.expiry now [] = .ok [] := by
      unfold Expiry.findings
      split <;> rfl
    rw [Tag.judge_of_sync hkind, hexpiry, hsync, hnone, Reference.findings_singleton]
    cases (if settings.sync.isActive = true then Reference.judge w d.path tag else .ok []) <;> rfl

/-! ## Messages about a line -/

open Comment (Form)

variable {x : Circumstances} {form : Form} {kind : Tag.Kind} {p rest closer : Text}

/-- All that a line with a tag in a comment says is the payload. -/
theorem Circumstances.messages_line (x : Circumstances) (form : Form) (kind : Tag.Kind)
    (hrest : Text.IsUnbroken rest) :
    x.messages (form.line kind rest) = x.told kind (Text.trim (' ' :: rest)) := by
  rw [messages, Document.findings_of_tags_eq_singleton
    (Form.tags_ofText_line x.path x.language form kind hrest)]
  cases kind with
  | expiry =>
    rw [Tag.judge_of_expiry rfl, told]
    split
    · have hjudge : (Expiry.judge x.settings.expiry x.now (form.tag .expiry rest)).map
          (fun found => found.toList.map Finding.message) =
            Expiry.told x.settings.expiry x.now (Text.trim (' ' :: rest)) :=
        Expiry.map_message_judge rfl
      rw [← hjudge]
      cases Expiry.judge x.settings.expiry x.now (form.tag .expiry rest) <;> rfl
    · rfl
  | sync =>
    rw [Tag.judge_of_sync rfl, told, Document.path_ofText]
    split
    · exact Reference.map_message_judge x.workspace x.path rfl
    · rfl

/-! ## What closes a comment -/

theorem Comment.Form.closing_of_closer? (h : form.closer? = some closer) :
    form.closing = ' ' :: closer := by
  rw [closing, h]

/-- A delimiter holds no blank, no comma, no line terminator and no template, and it is neither a
day nor a zone. -/
structure Comment.IsCloser (closer : Text) : Prop where
  ne_nil : closer ≠ []
  unblank : ∀ c ∈ closer, Text.isBlank c = false
  uncut : ',' ∉ closer
  unbroken : Text.IsUnbroken closer
  filled : ¬ Expiry.placeholder <:+: closer
  noDate : Expiry.date? closer = none
  noZone : Expiry.zones.lookup (Text.upper closer) = none

theorem Comment.Form.isCloser (h : form.closer? = some closer) : IsCloser closer := by
  cases form with
  | slashes | hash => cases h
  | block | html =>
    cases h
    constructor <;> first | exact Text.unblank_of_all rfl | decide

theorem Comment.IsCloser.isUnbroken_append (hcloser : IsCloser closer) (hp : Text.IsUnbroken p) :
    Text.IsUnbroken (p ++ ' ' :: closer) :=
  Text.isUnbroken_append.mpr ⟨hp, Text.isUnbroken_cons.mpr ⟨by decide, hcloser.unbroken⟩⟩

namespace Expiry

variable {policy : Policy} {now : Instant}

theorem told_congr {t t' : Text} (hplace : placeholder <:+: t ↔ placeholder <:+: t')
    (hwords : Text.words t = Text.words t') : told policy now t = told policy now t' := by
  have hfind : (Text.find? placeholder t).isSome = (Text.find? placeholder t').isSome := by
    rw [Bool.eq_iff_iff, Text.isSome_find?_iff, Text.isSome_find?_iff, hplace]
  have hread : ofPayload? t = ofPayload? t' := by
    unfold ofPayload?
    rw [hwords]
  rw [told, told, hfind, hread]

theorem told_trim (t : Text) : told policy now (Text.trim (' ' :: t)) = told policy now t := by
  refine told_congr ?_ ?_
  · rw [Text.infix_trim_iff (by decide) (Text.unblank_of_all rfl)]
    refine (Text.infix_append_cons_iff (s := []) (by decide)).trans ?_
    rw [List.infix_nil]
    exact or_iff_right (by decide)
  · rw [Text.words_trim, Text.words_cons_of_isBlank (by decide)]

/-- A payload that ends in a delimiter has no meaning: the delimiter is no day and no zone. -/
theorem ofPayload?_append_closer (hcloser : Comment.IsCloser closer) (p : Text) :
    ofPayload? (p ++ ' ' :: closer) = none := by
  have hwords : Text.words (p ++ ' ' :: closer) = Text.words p ++ [closer] := by
    rw [Text.words_append_of_isBlank (by decide),
      Text.words_of_unbroken hcloser.ne_nil hcloser.unblank]
  unfold ofPayload?
  rw [hwords]
  match Text.words p with
  | [] =>
    show make? closer _ = none
    rw [make?, instant?, hcloser.noDate]
    rfl
  | [d] =>
    show make? d (Text.upper closer) = none
    rw [make?, instant?, hcloser.noZone]
    cases date? d <;> rfl
  | _ :: _ :: ws => cases ws <;> rfl

theorem told_append_closer (hcloser : Comment.IsCloser closer) (p : Text) :
    told policy now (p ++ ' ' :: closer) =
      if (Text.find? placeholder p).isSome then .ok []
      else .ok (if policy.warnOnInvalid then [invalidMessage] else []) := by
  have hfind : (Text.find? placeholder (p ++ ' ' :: closer)).isSome =
      (Text.find? placeholder p).isSome := by
    rw [Bool.eq_iff_iff, Text.isSome_find?_iff, Text.isSome_find?_iff,
      Text.infix_append_cons_iff (by decide)]
    exact or_iff_left hcloser.filled
  rw [told, hfind, ofPayload?_append_closer hcloser]

theorem expiredMessage_ne_invalidMessage (e : Expiry) : expiredMessage e ≠ invalidMessage := by
  intro h
  have hexpired : ((expiredMessage e).drop 11).head? = some 'e' := rfl
  have hinvalid : (invalidMessage.drop 11).head? = some 'f' := rfl
  rw [h, hinvalid] at hexpired
  exact absurd hexpired (by decide)

/-- The delimiter makes a difference exactly for a payload with a meaning, unless nothing is said
about it with or without the delimiter. -/
theorem told_append_closer_eq_iff (hcloser : Comment.IsCloser closer) (p : Text) :
    told policy now (p ++ ' ' :: closer) = told policy now p ↔
      (¬ placeholder <:+: p → ∀ e, Sets p e →
        policy.warnOnInvalid = false ∧ told policy now p = .ok []) := by
  rw [told_append_closer hcloser, ← Text.isSome_find?_iff]
  unfold told
  by_cases hplace : (Text.find? placeholder p).isSome = true
  · rw [if_pos hplace, if_pos hplace]
    exact iff_of_true rfl fun h => absurd hplace h
  rw [if_neg hplace, if_neg hplace]
  cases hread : ofPayload? p with
  | none =>
    refine iff_of_true rfl fun _ e he => ?_
    have hsome := (ofPayload?_eq_some_iff p e.expiry).mpr ⟨e, he, rfl⟩
    rw [hread] at hsome
    cases hsome
  | some x =>
    obtain ⟨e, he, rfl⟩ := (ofPayload?_eq_some_iff p x).mp hread
    dsimp only
    cases hwarn : policy.warnOnInvalid with
    | false =>
      rw [if_neg Bool.false_ne_true]
      exact ⟨fun h _ _ _ => ⟨rfl, h.symm⟩, fun h => (h hplace e he).2.symm⟩
    | true =>
      rw [if_pos rfl]
      refine iff_of_false (fun h => ?_) fun h => absurd (h hplace e he).1.symm Bool.false_ne_true
      obtain ⟨deadline, -, h⟩ := Traverse.bind_eq_ok.mp h.symm
      cases hafter : now.isAfter deadline with
      | false =>
        rw [hafter] at h
        cases h
      | true =>
        rw [hafter] at h
        have hsame := List.head_eq_of_cons_eq (Except.ok.inj h)
        exact expiredMessage_ne_invalidMessage _ hsame

end Expiry

namespace Reference

variable {w : Workspace} {document : Text}

theorem tokens_of_notMem {t : Text} (h : ',' ∉ t) : tokens t = Text.words t := by
  rw [tokens, if_neg (by simpa using h)]

/-- Without commas a payload is cut at its blanks, so those around it do not matter. -/
theorem tokens_trim {t : Text} (h : ',' ∉ t) : tokens (Text.trim (' ' :: t)) = Text.words t := by
  obtain ⟨before, after, -, -, ht⟩ := Text.exists_gaps_around_trim (' ' :: t)
  have hsubset : Text.trim (' ' :: t) <:+: ' ' :: t := by
    conv_rhs => rw [ht]
    exact ⟨before, after, rfl⟩
  have hcomma : ',' ∉ ' ' :: t := by
    rw [List.mem_cons, not_or]
    exact ⟨by decide, h⟩
  rw [tokens_of_notMem fun hmem => hcomma (hsubset.subset hmem), Text.words_trim,
    Text.words_cons_of_isBlank (by decide)]

/-- The messages about the tokens of two payloads, one after the other. -/
theorem map_messages_targets_append {payload before after : Text}
    (htokens : tokens payload = tokens before ++ tokens after) (hbefore : tokens before ≠ [])
    (hafter : tokens after ≠ []) :
    (targets w document payload false).map messages =
      (do
        let told ← (targets w document before false).map messages
        let more ← (targets w document after false).map messages
        return told ++ more) := by
  have hne : tokens payload ≠ [] := by
    rw [htokens]
    exact List.append_ne_nil_of_left_ne_nil hbefore _
  rw [targets_eq, targets_eq, targets_eq, if_neg hne, if_neg hbefore, if_neg hafter, htokens,
    List.mapM_append]
  cases (tokens before).mapM (targetsOfToken w document false) with
  | error failure => rfl
  | ok found =>
    cases (tokens after).mapM (targetsOfToken w document false) with
    | error failure => rfl
    | ok others =>
      show Except.ok (messages (found ++ others).flatten) =
        Except.ok (messages found.flatten ++ messages others.flatten)
      rw [List.flatten_append, messages, List.filterMap_append, List.map_append]
      rfl

end Reference

/-! ## Comments side by side -/

namespace Circumstances

theorem messages_expiry_append_closer (x : Circumstances) (hclose : form.closer? = some closer)
    (hp : Text.IsUnbroken p) :
    x.messages (form.line .expiry (p ++ form.closing)) =
        x.messages (Form.slashes.line .expiry p) ↔
      (x.settings.expiry.enabled = true → ¬ Expiry.placeholder <:+: p → ∀ e, Expiry.Sets p e →
        x.settings.expiry.warnOnInvalid = false ∧
          x.messages (Form.slashes.line .expiry p) = .ok []) := by
  have hcloser := Form.isCloser hclose
  have hrest := hcloser.isUnbroken_append hp
  rw [Form.closing_of_closer? hclose, messages_line x form _ hrest, messages_line x _ _ hp, told,
    told, Expiry.told_trim, Expiry.told_trim]
  by_cases henabled : x.settings.expiry.enabled = true
  · rw [if_pos henabled, if_pos henabled, Expiry.told_append_closer_eq_iff hcloser]
    exact ⟨fun h _ => h, fun h => h henabled⟩
  · rw [if_neg henabled, if_neg henabled]
    exact iff_of_true rfl fun h => absurd h henabled

theorem messages_sync_append_closer (x : Circumstances) (hclose : form.closer? = some closer)
    (hp : Text.IsUnbroken p) (hactive : x.settings.sync.isActive = true) (hcomma : ',' ∉ p)
    (hwords : Text.words p ≠ []) :
    x.messages (form.line .sync (p ++ form.closing)) =
      (do
        let told ← x.messages (Form.slashes.line .sync p)
        let more ← x.messages (Form.slashes.line .sync closer)
        return told ++ more) := by
  have hcloser := Form.isCloser hclose
  have hrest := hcloser.isUnbroken_append hp
  have hboth : ',' ∉ p ++ ' ' :: closer := by
    rw [List.mem_append, List.mem_cons, not_or, not_or]
    exact ⟨hcomma, by decide, hcloser.uncut⟩
  have hlast : Text.words closer = [closer] :=
    Text.words_of_unbroken hcloser.ne_nil hcloser.unblank
  rw [Form.closing_of_closer? hclose, messages_line x form _ hrest, messages_line x _ _ hp,
    messages_line x _ _ hcloser.unbroken, told, told, told, if_pos hactive, if_pos hactive,
    if_pos hactive]
  refine Reference.map_messages_targets_append ?_ ?_ ?_
  · rw [Reference.tokens_trim hboth, Reference.tokens_trim hcomma,
      Reference.tokens_trim hcloser.uncut, Text.words_append_of_isBlank (by decide)]
  · rwa [Reference.tokens_trim hcomma]
  · rw [Reference.tokens_trim hcloser.uncut, hlast]
    exact List.cons_ne_nil _ _

/-- The messages about a one-line document depend on what stands behind the name of its tag and not
on what opens the comment. What closes the comment on the same line is part of the payload. It makes
no difference to an expiry tag exactly if the payload is not looked at, has no meaning anyway, or
nothing is said with it or without it; and in a sync tag it is one more token. -/
theorem messages_of_comment (x : Circumstances) :
    (∀ (form : Form) kind rest, Text.IsUnbroken rest →
      x.messages (form.line kind rest) = x.messages (Form.slashes.line kind rest)) ∧
    (∀ (form : Form) closer p, form.closer? = some closer → Text.IsUnbroken p →
      (x.messages (form.line .expiry (p ++ form.closing)) =
          x.messages (Form.slashes.line .expiry p) ↔
        (x.settings.expiry.enabled = true → ¬ Expiry.placeholder <:+: p →
          ∀ e, Expiry.Sets p e →
            x.settings.expiry.warnOnInvalid = false ∧
              x.messages (Form.slashes.line .expiry p) = .ok []))) ∧
    ∀ (form : Form) closer p, form.closer? = some closer → Text.IsUnbroken p →
      x.settings.sync.isActive = true → ',' ∉ p → Text.words p ≠ [] →
      x.messages (form.line .sync (p ++ form.closing)) =
        (do
          let told ← x.messages (Form.slashes.line .sync p)
          let more ← x.messages (Form.slashes.line .sync closer)
          return told ++ more) := by
  refine ⟨fun form kind rest hrest => ?_, fun form closer p hclose hp => ?_,
    fun form closer p hclose hp hactive hcomma hwords => ?_⟩
  · rw [messages_line x form kind hrest, messages_line x .slashes kind hrest]
  · exact x.messages_expiry_append_closer hclose hp
  · exact x.messages_sync_append_closer hclose hp hactive hcomma hwords

/-- A document beside a file that it may refer to, on the first day of the year 2026. -/
def sample : Circumstances where
  settings := {}
  workspace := .ofFolders ['/'] ["/ws".toList] <|
    .ofStages [("/ws/a.py".toList, { probe := some (.ok { isFolder := false, size := 1 }) })]
  path := "/ws/a.ts".toList
  language := none
  now := Expiry.newYear.instant

/-- A payload without a meaning has none with a delimiter either, and the delimiter of a sync tag is
looked for like a file. -/
theorem messages_of_comment_sample :
    Text.IsUnbroken "soon".toList ∧ Text.IsUnbroken "a.py".toList ∧
      sample.messages "# @AI:EXPIRY soon".toList = sample.messages "// @AI:EXPIRY soon".toList ∧
      sample.messages "<!-- @AI:EXPIRY soon -->".toList =
        sample.messages "// @AI:EXPIRY soon".toList ∧
      sample.messages "/* @AI:SYNC a.py */".toList =
        .ok ["@AI:SYNC target not found: */".toList] := by
  obtain ⟨hopen, hexpiry, hsync⟩ := messages_of_comment sample
  refine ⟨by decide, by decide, hopen .hash .expiry "soon".toList (by decide), ?_, ?_⟩
  · refine (hexpiry .html "-->".toList "soon".toList rfl (by decide)).mpr fun _ _ e he => ?_
    have hread := (Expiry.ofPayload?_eq_some_iff _ e.expiry).mpr ⟨e, he, rfl⟩
    rw [show Expiry.ofPayload? "soon".toList = none by decide] at hread
    cases hread
  · refine (hsync .block "*/".toList "a.py".toList rfl (by decide) rfl (by decide)
      (by decide)).trans ?_
    decide +kernel

/-- A comment that is closed on its line says more about the same payload than one that is not. -/
theorem not_messages_eq_of_closed :
    ¬ "*/".toList <:+: "2099-01-01".toList ∧ ¬ "-->".toList <:+: "2099-01-01".toList ∧
      sample.messages "// @AI:EXPIRY 2099-01-01".toList = .ok [] ∧
      sample.messages "# @AI:EXPIRY 2099-01-01".toList = .ok [] ∧
      sample.messages "/* @AI:EXPIRY 2099-01-01 */".toList =
        .ok ["@AI:EXPIRY format invalid. Use YYYY-MM-DD [TZ]".toList] ∧
      sample.messages "<!-- @AI:EXPIRY 2099-01-01 -->".toList =
        .ok ["@AI:EXPIRY format invalid. Use YYYY-MM-DD [TZ]".toList] ∧
      ¬ "*/".toList <:+: "a.py".toList ∧ ¬ "-->".toList <:+: "a.py".toList ∧
      sample.messages "// @AI:SYNC a.py".toList = .ok [] ∧
      sample.messages "# @AI:SYNC a.py".toList = .ok [] ∧
      sample.messages "/* @AI:SYNC a.py */".toList =
        .ok ["@AI:SYNC target not found: */".toList] ∧
      sample.messages "<!-- @AI:SYNC a.py -->".toList =
        .ok ["@AI:SYNC target not found: -->".toList] := by
  decide +kernel

end Circumstances

end TagLint
