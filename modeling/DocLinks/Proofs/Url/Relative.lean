import DocLinks.Proofs.Text.Run
import DocLinks.Proofs.Verify.Check

namespace DocLinks

namespace Url

/-- A text without the blanks and controls in front of it, and without tabs and line ends. -/
def significant (t : Text) : Text :=
  (t.dropWhile (· ≤ ' ')).filter fun c => !isDropped c

/-- A scheme and its colon: a letter, then letters, digits and the signs `+`, `-` and `.`. -/
inductive BeginsWithScheme : Text → Prop
  | intro {first : Char} {others rest : Text} : first.isAlpha = true →
      (∀ c ∈ others, isSchemeChar c = true) → BeginsWithScheme (first :: others ++ ':' :: rest)

/-- Texts that cannot begin with a scheme, by what stands in front. -/
inductive LooksRelative : Text → Prop
  | empty : LooksRelative []
  /-- No letter in front: a number sign, a dot, a slash, a question mark or anything else. -/
  | nonLetter {c : Char} {rest : Text} : c.isAlpha = false → LooksRelative (c :: rest)
  /-- No colon before the first slash, number sign or question mark. -/
  | noColon {t : Text} : ':' ∉ t.takeWhile (fun c => c ∉ ['/', '#', '?']) → LooksRelative t

theorem BeginsWithScheme.append {t : Text} (h : BeginsWithScheme t) (more : Text) :
    BeginsWithScheme (t ++ more) := by
  cases h with
  | intro hfirst hothers =>
      rw [List.append_assoc, List.cons_append]
      exact .intro hfirst hothers

theorem isSchemeChar_of_isAlpha {c : Char} (h : c.isAlpha = true) : isSchemeChar c = true := by
  simp [isSchemeChar, Char.isAlphanum, h]

theorem beginsWithScheme_of_splitScheme {t scheme rest : Text}
    (h : splitScheme t = some (scheme, rest)) : BeginsWithScheme t := by
  rw [splitScheme] at h
  split at h
  next name behind hsplit =>
    split at h
    next hname =>
      obtain ⟨rfl, _⟩ := Text.splitOnce_eq_some_iff.mp hsplit
      rw [Bool.and_eq_true, List.all_eq_true] at hname
      obtain ⟨hletter, hchars⟩ := hname
      cases name with
      | nil => cases hletter
      | cons first others =>
          exact .intro hletter fun c hc => hchars c (List.mem_cons_of_mem first hc)
    next => cases h
  next => cases h

theorem clean_prefix_significant (t : Text) : clean t <+: significant t :=
  (List.rdropWhile_prefix _ _).filter _

theorem parse_of_splitScheme_eq_none {t : Text} (h : splitScheme (clean t) = none) :
    parse t = none := by
  rw [parse, h]

theorem beginsWithScheme_of_parse {t : Text} (h : parse t ≠ none) :
    BeginsWithScheme (significant t) := by
  cases hsplit : splitScheme (clean t) with
  | none => exact absurd (parse_of_splitScheme_eq_none hsplit) h
  | some halves =>
      obtain ⟨more, hmore⟩ := clean_prefix_significant t
      rw [← hmore]
      exact (beginsWithScheme_of_splitScheme hsplit).append more

theorem notMem_signs_of_isSchemeChar {c : Char} (h : isSchemeChar c = true) :
    c ∉ ['/', '#', '?'] := by
  intro hmem
  have hsigns : (['/', '#', '?'].all fun d => !isSchemeChar d) = true := by decide
  rw [List.all_eq_true] at hsigns
  have hc : isSchemeChar c = false := by simpa using hsigns c hmem
  rw [hc] at h
  cases h

theorem LooksRelative.not_beginsWithScheme {t : Text} (h : LooksRelative t) :
    ¬BeginsWithScheme t := by
  intro hscheme
  cases hscheme with
  | @intro first others rest hfirst hothers =>
      cases h with
      | nonLetter hletter =>
          rw [hfirst] at hletter
          cases hletter
      | noColon hcolon =>
          have hname : ∀ c ∈ first :: others, decide (c ∉ ['/', '#', '?']) = true := by
            intro c hc
            apply decide_eq_true
            apply notMem_signs_of_isSchemeChar
            rcases List.mem_cons.mp hc with rfl | hc
            · exact isSchemeChar_of_isAlpha hfirst
            · exact hothers c hc
          apply hcolon
          rw [List.takeWhile_append_of_pos hname, List.takeWhile_cons_of_pos (by decide)]
          exact List.mem_append_right _ List.mem_cons_self

theorem parse_ne_none_of_no_host {t scheme rest : Text}
    (hsplit : splitScheme (clean t) = some (scheme, rest)) (hkind : schemeKind scheme = .other)
    (hhost : ¬['/', '/'] <+: rest) : parse t ≠ none := by
  have hparse : parse t = readOther scheme rest := by
    rw [parse, hsplit]
    simp only [hkind]
  rw [hparse]
  fun_cases readOther scheme rest with
  | case1 behind => exact absurd (List.prefix_append ['/', '/'] behind) hhost
  | case2 => simp
  | case3 => simp

end Url

/-- A destination is absolute only if it begins with a scheme, apart from characters that do not
count, and that is enough for a scheme without rules of its own where no host follows. So a link
to a destination that looks relative has no address. Among any links that are verified below an
absolute base, what is told at its place is the outcome of its check: as an anchor into its
document if a number sign begins it, and as the name of a file otherwise. -/
theorem relative_destinations_are_checked (href : Text) :
    (Url.parse href ≠ none → Url.BeginsWithScheme (Url.significant href)) ∧
      (∀ scheme rest, Url.splitScheme (Url.clean href) = some (scheme, rest) →
        Url.schemeKind scheme = .other → ¬['/', '/'] <+: rest → Url.parse href ≠ none) ∧
      (Url.LooksRelative (Url.significant href) →
        (Link.ofHref href).url = none ∧
          ∀ (fs : FileSystem) (base : Path) (document : Document) (options : VerifyOptions),
            base.isAbsolute = true →
            ∃ s checked, Session.start base document options = .ok s ∧
              (∀ anchor, href = '#' :: anchor → checked = .ok (s.checkPureAnchor anchor)) ∧
              (href.head? ≠ some '#' → checked = s.checkFileLink fs href) ∧
              ∀ before after, ∃ front behind,
                verifyLinks fs base document before options = .ok front ∧
                verifyLinks fs base document after options = .ok behind ∧
                verifyLinks fs base document (before ++ .ofHref href :: after) options =
                  .ok (front ++ (Session.itemOf (.ofHref href) checked).toList ++ behind)) := by
  refine ⟨Url.beginsWithScheme_of_parse, fun _ _ => Url.parse_ne_none_of_no_host, ?_⟩
  intro hrelative
  have hurl : (Link.ofHref href).url = none := by
    by_contra hurl
    exact hrelative.not_beginsWithScheme (Url.beginsWithScheme_of_parse hurl)
  refine ⟨hurl, ?_⟩
  intro fs base document options habsolute
  let s : Session := ⟨base.normalize, document, options⟩
  refine ⟨s, s.check fs (.ofHref href), Session.start_of_isAbsolute habsolute document options,
    ?_, ?_, ?_⟩
  · intro anchor hanchor
    exact Session.check_of_pureAnchor hurl hanchor
  · intro hhead
    exact Session.check_of_file hurl hhead
  · intro before after
    refine ⟨s.items fs before, s.items fs after, Session.verifyLinks_eq_items fs habsolute before,
      Session.verifyLinks_eq_items fs habsolute after, ?_⟩
    rw [Session.verifyLinks_eq_items fs habsolute, Session.items_append_cons]

theorem late_colon_is_checked :
    let mailbox := " mail\tto:a@b".toList
    let file := "\t docs/a:b.md".toList
    let fs : FileSystem := ⟨fun _ => false, fun _ => false, fun _ => .error .noSuchFile⟩
    let base := Path.ofString "/b"
    let document : Document := ⟨.ofString "a.md", []⟩
    Url.parse mailbox ≠ none ∧ Url.BeginsWithScheme (Url.significant mailbox) ∧
      Url.LooksRelative (Url.significant file) ∧ (Link.ofHref file).url = none ∧
        base.isAbsolute = true ∧
          verifyLinks fs base document [.ofHref mailbox, .ofHref file, .ofHref ['#']] {} =
            .ok [.ok ⟨.file .fileNotExists, .ofHref file⟩,
              .ok ⟨.anchor .emptyAnchor, .ofHref ['#']⟩] := by
  intro mailbox file fs base document
  obtain ⟨hscheme, hopaque, _⟩ := relative_destinations_are_checked mailbox
  have hmailbox : Url.parse mailbox ≠ none := by
    refine hopaque "mailto".toList "a@b".toList ?_ ?_ ?_ <;> decide +kernel
  have hrelative : Url.LooksRelative (Url.significant file) := .noColon (by decide +kernel)
  have habsolute : base.isAbsolute = true := by decide +kernel
  obtain ⟨hurl, hverified⟩ := (relative_destinations_are_checked file).2.2 hrelative
  obtain ⟨s, checked, hstart, _, hchecked, hplace⟩ := hverified fs base document {} habsolute
  obtain ⟨front, behind, hfront, hbehind, hitems⟩ := hplace [.ofHref mailbox] [.ofHref ['#']]
  have hmissing : (Session.start base document {}).map (fun s => s.checkFileLink fs file) =
      .ok (.ok (some (.file .fileNotExists))) := by decide +kernel
  have hskipped : verifyLinks fs base document [.ofHref mailbox] {} = .ok [] := by decide +kernel
  have hempty : verifyLinks fs base document [.ofHref ['#']] {} =
      .ok [.ok ⟨.anchor .emptyAnchor, .ofHref ['#']⟩] := by decide +kernel
  rw [hstart] at hmissing
  rw [hskipped] at hfront
  rw [hempty] at hbehind
  cases hfront
  cases hbehind
  have hoff : s.checkFileLink fs file = .ok (some (.file .fileNotExists)) := Except.ok.inj hmissing
  refine ⟨hmailbox, hscheme hmailbox, hrelative, hurl, habsolute, hitems.trans ?_⟩
  rw [hchecked (by decide), hoff]
  rfl

end DocLinks
