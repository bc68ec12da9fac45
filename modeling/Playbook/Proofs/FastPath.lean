import Mathlib.Data.List.Basic
import Playbook.Proofs.Outline.Reading
import Playbook.Template.Engine

/-!
# Texts that are not rendered

The resolver leaves a text as it is that has no opening mark of an expression or a statement. Such a
text holds nothing for the renderer but comments, so rendering it would give the text without them:
the resolver does what the renderer does exactly when there is no comment or the text is rendered
after all.
-/

namespace Playbook.Template

/-! ## Occurrences -/

theorem occurs_append {pattern front back : List Char}
    (h : Text.occurs pattern (front ++ back) = false) : Text.occurs pattern back = false := by
  induction front with
  | nil => exact h
  | cons c rest ih => exact ih (Bool.or_eq_false_iff.mp h).2

/-- No expression and no statement is opened. -/
def Unopened (chars : List Char) : Prop :=
  Text.occurs ['\x7b', '\x7b'] chars = false ∧ Text.occurs ['\x7b', '%'] chars = false

theorem isTemplate_eq_false {text : String} :
    isTemplate text = false ↔ Unopened text.toList :=
  Bool.or_eq_false_iff

theorem Unopened.append (front : List Char) {back : List Char} (h : Unopened (front ++ back)) :
    Unopened back :=
  ⟨occurs_append h.1, occurs_append h.2⟩

/-- Whether a comment is opened. -/
def hasComment (chars : List Char) : Bool :=
  Text.occurs ['\x7b', '#'] chars

namespace Token

open Outline (map_eq_ok)

/-- Where nothing else is opened, the next mark is that of a comment, if there is one. -/
theorem untilMark_of_unopened {chars : List Char} (h : Unopened chars) :
    (hasComment chars = false ∧ untilMark chars = (chars, none)) ∨
      (hasComment chars = true ∧ ∃ before rest, chars = before ++ '\x7b' :: '#' :: rest ∧
        untilMark chars = (before, some (.comment, rest))) := by
  fun_induction untilMark chars with
  | case1 rest => exact absurd h.1 (by simp [Text.occurs])
  | case2 rest => exact absurd h.2 (by simp [Text.occurs])
  | case3 rest => exact .inr ⟨by simp [hasComment, Text.occurs], [], rest, rfl, rfl⟩
  | case4 c rest hprint hblock hcomment before mark hmark ih =>
    have hhead : hasComment (c :: rest) = hasComment rest := by
      cases rest with
      | nil => simp [hasComment, Text.occurs, List.isPrefixOf]
      | cons d more =>
        have hpair : ¬ ('\x7b' = c ∧ '#' = d) := fun h ↦ hcomment more h.1.symm (h.2 ▸ rfl)
        simp [hasComment, Text.occurs, hpair]
    have hrest : Unopened rest := Unopened.append [c] h
    rw [hhead]
    rcases ih hrest with ⟨hnone, huntil⟩ | ⟨hsome, front, back, hparts, huntil⟩
    · obtain ⟨rfl, rfl⟩ := Prod.mk.inj (hmark.symm.trans huntil)
      exact .inl ⟨hnone, rfl⟩
    · obtain ⟨rfl, rfl⟩ := Prod.mk.inj (hmark.symm.trans huntil)
      exact .inr ⟨hsome, c :: before, back, congrArg (c :: ·) hparts, rfl⟩
  | case5 => exact .inl ⟨rfl, rfl⟩

/-- A comment ends before what follows it. -/
theorem exists_append_of_afterComment {minus trim : Bool} {chars after : List Char}
    (h : afterComment minus chars = some (trim, after)) : ∃ front, chars = front ++ after := by
  fun_induction afterComment minus chars with
  | case1 => cases h
  | case2 minus rest =>
    obtain ⟨-, rfl⟩ := Prod.mk.inj (Option.some.inj h)
    exact ⟨['#', '\x7d'], rfl⟩
  | case3 minus c rest _ ih =>
    obtain ⟨front, rfl⟩ := ih h
    exact ⟨c :: front, rfl⟩

/-! ## Tokens that are texts -/

/-- The tokens are texts that make up a text of so many characters together. -/
inductive Texts : List Placed → String → Prop where
  | nil : Texts [] ""
  | cons (line : Nat) (content : String) {rest : List Placed} {out : String} :
    Texts rest out → Texts (⟨line, .text content⟩ :: rest) (content ++ out)

theorem Texts.placedText {line : Nat} {text : List Char} {later : Except Fault (List Placed)}
    {tokens : List Placed} (h : placedText line text later = .ok tokens) :
    ∃ more, later = .ok more ∧
      ∀ out, Texts more out → Texts tokens (String.ofList text ++ out) := by
  unfold Token.placedText at h
  split at h
  · next hempty =>
    obtain rfl := List.isEmpty_iff.mp hempty
    exact ⟨tokens, h, fun out hmore ↦ by simpa using hmore⟩
  · obtain ⟨more, hmore, rfl⟩ := map_eq_ok.mp h
    exact ⟨more, hmore, fun out ↦ .cons line (String.ofList text)⟩

theorem length_trimStart_le (text : List Char) : (Text.trimStart text).length ≤ text.length :=
  (List.dropWhile_sublist _).length_le

theorem length_trimEnd_le (text : List Char) : (Text.trimEnd text).length ≤ text.length := by
  rw [Text.trimEnd, List.length_reverse]
  exact Nat.le_trans (length_trimStart_le _) (Nat.le_of_eq List.length_reverse)

/-- Taking blanks away makes no text longer. -/
theorem length_ite_le (condition : Prop) [Decidable condition] {shorter text : List Char} {n : Nat}
    (hshorter : shorter.length ≤ text.length) (htext : text.length ≤ n) :
    (if condition then shorter else text).length ≤ n := by
  split
  · exact Nat.le_trans hshorter htext
  · exact htext

/-- What is read of a text in which only comments are opened. Each comment makes it shorter. -/
theorem texts_of_scanText {fuel line : Nat} {trim : Bool} {chars : List Char}
    {tokens : List Placed} (hunopened : Unopened chars)
    (h : scanText fuel line trim chars = .ok tokens) :
    ∃ out, Texts tokens out ∧ out.length ≤ chars.length ∧
      (hasComment chars = true → out.length < chars.length) := by
  induction fuel generalizing line trim chars tokens with
  | zero => cases h
  | succ fuel ih =>
    rw [scanText] at h
    rcases untilMark_of_unopened hunopened with
      ⟨hnone, huntil⟩ | ⟨hsome, before, rest, rfl, huntil⟩
    · rw [huntil] at h
      dsimp only at h
      obtain ⟨more, hmore, htexts⟩ := Texts.placedText h
      obtain rfl := Except.ok.inj hmore
      have hkept := length_ite_le (trim = true) (length_trimStart_le chars)
        (Nat.le_refl _)
      refine ⟨_, htexts "" .nil, ?_, fun hcomment ↦ absurd hnone (by rw [hcomment]; decide)⟩
      rwa [String.append_empty, String.length_ofList]
    · rw [huntil] at h
      dsimp only at h
      -- What is read on behind the comment has still nothing else opened in it.
      cases hafter : afterComment false rest with
      | none =>
        rw [hafter] at h
        cases h
      | some found =>
        obtain ⟨trimNext, after⟩ := found
        obtain ⟨front, rfl⟩ := exists_append_of_afterComment hafter
        rw [hafter] at h
        dsimp only at h
        obtain ⟨more, hmore, htexts⟩ := Texts.placedText h
        have hlater : Unopened after :=
          Unopened.append (before ++ '\x7b' :: '#' :: front) (by simpa using hunopened)
        obtain ⟨out, hout, hlength, -⟩ := ih hlater hmore
        have hkept := length_ite_le ((sign (front ++ after)).1 = true)
          (length_trimEnd_le _) (length_ite_le (trim = true)
            (length_trimStart_le before) (Nat.le_refl _))
        have hshorter : ∀ kept : List Char, kept.length ≤ before.length →
            (String.ofList kept ++ out).length <
              (before ++ '\x7b' :: '#' :: (front ++ after)).length := by
          intro kept hkept
          rw [String.length_append, String.length_ofList]
          simp only [List.length_append, List.length_cons]
          omega
        exact ⟨_, htexts out hout, Nat.le_of_lt (hshorter _ hkept), fun _ ↦ hshorter _ hkept⟩

/-- Where nothing is opened, the text is its only token. -/
theorem scan_of_plain {text : String} (hunopened : Unopened text.toList)
    (hplain : hasComment text.toList = false) :
    ∃ tokens, scan text = .ok tokens ∧ Texts tokens text := by
  have huntil : untilMark text.toList = (text.toList, none) := by
    rcases untilMark_of_unopened hunopened with ⟨-, huntil⟩ | ⟨hcomment, -⟩
    · exact huntil
    · rw [hplain] at hcomment
      cases hcomment
  have hscan : scan text = Token.placedText 1 text.toList (.ok []) := by
    rw [scan, scanText, huntil]
    rfl
  obtain ⟨tokens, htokens⟩ : ∃ tokens, Token.placedText 1 text.toList (.ok []) = .ok tokens := by
    unfold Token.placedText
    split
    · exact ⟨[], rfl⟩
    · exact ⟨_, rfl⟩
  obtain ⟨more, hmore, htexts⟩ := Texts.placedText htokens
  obtain rfl := Except.ok.inj hmore
  have htext := htexts "" .nil
  rw [String.ofList_toList, String.append_empty] at htext
  exact ⟨tokens, hscan.trans htokens, htext⟩

end Token

/-! ## Rendering texts -/

namespace Rendering

open Evaluation Token

/-- Tokens that are texts are read as pieces that write these texts. -/
theorem exists_pieces {tokens : List Placed} {out : String} (h : Texts tokens out) (fuel : Nat)
    (hfuel : tokens.length < fuel) :
    ∃ found, Reading.pieces fuel [] tokens = .ok (found, []) ∧
      ∀ facts caller memory, renderAll facts caller found memory =
        .ok (⟨⟩, { memory with output := memory.output ++ out }) := by
  induction h generalizing fuel with
  | nil =>
    obtain ⟨fuel, rfl⟩ := Nat.exists_eq_succ_of_ne_zero (Nat.ne_zero_of_lt hfuel)
    refine ⟨[], rfl, fun facts caller memory ↦ ?_⟩
    rw [String.append_empty]
    rfl
  | @cons line content rest out _ ih =>
    obtain ⟨fuel, rfl⟩ := Nat.exists_eq_succ_of_ne_zero (Nat.ne_zero_of_lt hfuel)
    obtain ⟨found, hfound, hrender⟩ := ih fuel (Nat.lt_of_succ_lt_succ hfuel)
    refine ⟨.text content :: found, ?_, fun facts caller memory ↦ ?_⟩
    · rw [Reading.pieces, hfound]
      rfl
    · rw [renderAll]
      change renderAll facts caller found { memory with output := memory.output ++ content } = _
      rw [hrender, String.append_assoc]

end Rendering

/-- A template whose tokens are texts is rendered as these texts. -/
theorem render_of_texts {text out : String} {tokens : List Placed}
    (hscan : Token.scan text = .ok tokens) (h : Token.Texts tokens out) (facts : Facts) :
    render text facts = .ok out := by
  obtain ⟨found, hfound, hrender⟩ :=
    Rendering.exists_pieces h (4 * tokens.length + 4) (by omega)
  rw [render, parse, hscan]
  change (Reading.pieces (4 * tokens.length + 4) [] tokens >>= fun found ↦
    Except.ok found.1) >>= (Rendering.output · facts) = _
  rw [hfound]
  change Rendering.output found facts = _
  rw [Rendering.output, hrender]
  exact congrArg Except.ok String.empty_append

theorem render_of_plain {text : String} (hunopened : Unopened text.toList)
    (hplain : hasComment text.toList = false) (facts : Facts) : render text facts = .ok text := by
  obtain ⟨tokens, hscan, htexts⟩ := Token.scan_of_plain hunopened hplain
  exact render_of_texts hscan htexts facts

/-- Rendering takes the comments away, if they are all closed. -/
theorem length_lt_of_render {text out : String} {facts : Facts} (hunopened : Unopened text.toList)
    (hcomment : hasComment text.toList = true) (h : render text facts = .ok out) :
    out.length < text.length := by
  cases hscan : Token.scan text with
  | error fault =>
    rw [render, parse, hscan] at h
    cases h
  | ok tokens =>
    obtain ⟨shown, htexts, -, hshorter⟩ := Token.texts_of_scanText hunopened hscan
    rw [render_of_texts hscan htexts facts] at h
    obtain rfl := Except.ok.inj h
    exact hshorter hcomment

/-- The resolver that renders every text. -/
def rendered : Resolver := fun text facts ↦
  (render text facts).mapError fun fault ↦ ⟨text, fault.message⟩

/-- To render only the texts with an opening mark is the same as to render all of them, except for
texts in which nothing is opened but comments: these keep their comments. -/
theorem resolver_eq_rendered_iff (text : String) (facts : Facts) :
    resolver text facts = rendered text facts ↔
      isTemplate text = true ∨ hasComment text.toList = false := by
  cases htemplate : isTemplate text with
  | true =>
    rw [resolver, if_pos htemplate]
    exact iff_of_true rfl (.inl rfl)
  | false =>
    have hresolver : resolver text facts = .ok text := by
      rw [resolver, htemplate]
      rfl
    have hunopened := isTemplate_eq_false.mp htemplate
    rw [hresolver]
    cases hcomment : hasComment text.toList with
    | false =>
      rw [rendered, render_of_plain hunopened hcomment]
      exact iff_of_true rfl (.inr rfl)
    | true =>
      refine iff_of_false (fun h ↦ ?_) (by simp)
      cases hrender : render text facts with
      | error fault =>
        rw [rendered, hrender] at h
        cases h
      | ok out =>
        rw [rendered, hrender] at h
        obtain rfl : text = out := Except.ok.inj h
        exact Nat.lt_irrefl _ (length_lt_of_render hunopened hcomment hrender)

/-- A comment is left in a text that has nothing else to render. -/
theorem resolver_keeps_comment :
    isTemplate "a\x7b# c #\x7db" = false ∧
      resolver "a\x7b# c #\x7db" ∅ = .ok "a\x7b# c #\x7db" ∧
      rendered "a\x7b# c #\x7db" ∅ = .ok "ab" := by
  have hscan : Token.scan "a\x7b# c #\x7db" = .ok [⟨1, .text "a"⟩, ⟨1, .text "b"⟩] := by rfl
  have htexts : Token.Texts [⟨1, .text "a"⟩, ⟨1, .text "b"⟩] "ab" :=
    .cons 1 "a" (.cons 1 "b" .nil)
  have hplain : isTemplate "a\x7b# c #\x7db" = false := by decide
  refine ⟨hplain, ?_, ?_⟩
  · rw [resolver, hplain]
    rfl
  · rw [rendered, render_of_texts hscan htexts]
    rfl

end Playbook.Template
