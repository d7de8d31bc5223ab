import DocLinks.Options.Config
import DocLinks.Proofs.Json.Skip
import Mathlib.Data.Finset.Dedup

namespace DocLinks

open Json

def Json.valuesOf (name : Text) (members : List (Text × Value)) : List Value :=
  (members.filter fun m => m.1 = name).map Prod.snd

theorem Json.valuesOf_cons_of_ne {name other : Text} (h : other ≠ name) (v : Value)
    (members : List (Text × Value)) :
    valuesOf name ((other, v) :: members) = valuesOf name members := by
  simp [valuesOf, h]

theorem Json.exists_of_valuesOf_cons {α : Type} {encode : α → Value} {x? : Option α} {name : Text}
    {v : Value} {members : List (Text × Value)}
    (h : valuesOf name ((name, v) :: members) = x?.toList.map encode) :
    ∃ x, x? = some x ∧ v = encode x ∧ valuesOf name members = [] := by
  cases x? with
  | none => simp [valuesOf] at h
  | some x =>
      obtain ⟨hv, hmembers⟩ : v = encode x ∧ valuesOf name members = [] := by
        simpa [valuesOf] using h
      exact ⟨x, rfl, hv, hmembers⟩

/-- The members give a dialect and a list of extensions, each of them once or not at all; members
of other names are free. -/
structure Config.Configures (members : List (Text × Value)) (dialect? : Option Dialect)
    (docExtensions? : Option (List Text)) : Prop where
  dialect : valuesOf "dialect".toList members =
    dialect?.toList.map fun dialect => .string dialect.name
  docExtensions : valuesOf "docExtensions".toList members =
    docExtensions?.toList.map fun extensions => .array (extensions.map .string)

namespace Config

inductive Sets : Partial → Text × Value → Partial → Prop
  | dialect {sofar : Partial} (d : Dialect) : sofar.dialect = none →
      Sets sofar ("dialect".toList, .string d.name) { sofar with dialect := some d }
  | docExtensions {sofar : Partial} (extensions : List Text) : sofar.docExtensions = none →
      Sets sofar ("docExtensions".toList, .array (extensions.map .string))
        { sofar with docExtensions := some extensions }
  | other {sofar : Partial} {name : Text} {v : Value} : name ≠ "dialect".toList →
      name ≠ "docExtensions".toList → Sets sofar (name, v) sofar

inductive SetsAll : Partial → List (Text × Value) → Partial → Prop
  | nil {sofar : Partial} : SetsAll sofar [] sofar
  | cons {sofar next given : Partial} {m : Text × Value} {members : List (Text × Value)} :
      Sets sofar m next → SetsAll next members given → SetsAll sofar (m :: members) given

theorem Configures.setsAll {members : List (Text × Value)} {dialect? : Option Dialect}
    {docExtensions? : Option (List Text)} (h : Configures members dialect? docExtensions?)
    {sofar : Partial} (hdialect : dialect? = none ∨ sofar.dialect = none)
    (hextensions : docExtensions? = none ∨ sofar.docExtensions = none) :
    SetsAll sofar members ⟨sofar.dialect <|> dialect?, sofar.docExtensions <|> docExtensions?⟩ := by
  induction members generalizing sofar dialect? docExtensions? with
  | nil =>
      obtain rfl : dialect? = none := by simpa [valuesOf] using h.dialect
      obtain rfl : docExtensions? = none := by simpa [valuesOf] using h.docExtensions
      simpa using SetsAll.nil
  | cons m members ih =>
      obtain ⟨name, v⟩ := m
      obtain ⟨hd, he⟩ := h
      by_cases hname : name = "dialect".toList
      · subst hname
        obtain ⟨d, rfl, rfl, hnone⟩ := exists_of_valuesOf_cons hd
        rw [valuesOf_cons_of_ne (by decide)] at he
        have hmembers : Configures members none docExtensions? := ⟨hnone, he⟩
        have hfree : sofar.dialect = none := by simpa using hdialect
        rw [hfree]
        exact .cons (.dialect d hfree) (ih hmembers (.inl rfl) hextensions)
      rw [valuesOf_cons_of_ne hname] at hd
      by_cases hname' : name = "docExtensions".toList
      · subst hname'
        obtain ⟨extensions, rfl, rfl, hnone⟩ := exists_of_valuesOf_cons he
        have hmembers : Configures members dialect? none := ⟨hd, hnone⟩
        have hfree : sofar.docExtensions = none := by simpa using hextensions
        rw [hfree]
        exact .cons (.docExtensions extensions hfree) (ih hmembers hdialect (.inl rfl))
      rw [valuesOf_cons_of_ne hname'] at he
      exact .cons (.other hname hname') (ih ⟨hd, he⟩ hdialect hextensions)

theorem readString_padded {s t : Text} (h : Padded (.string s) t) (rest : Text) :
    ∃ u behind, skipBlanks (t ++ rest) = '"' :: u ∧ readString u = .ok (s, behind) ∧
      skipBlanks behind = skipBlanks rest := by
  cases h with
  | @mk _ before _ behind hbefore hwritten hbehind =>
      cases hwritten with
      | @string _ t hchars =>
          refine ⟨t ++ '"' :: (behind ++ rest), behind ++ rest, ?_, ?_, ?_⟩
          · rw [List.append_assoc, skipBlanks_append hbefore]
            simp [skipBlanks_cons, isBlank]
          · exact readString_append hchars _
          · exact skipBlanks_append hbehind rest

theorem exactDialect?_name (d : Dialect) : exactDialect? d.name = some d := by
  cases d <;> rfl

theorem readDialect_append {d : Dialect} {t : Text} (h : Padded (.string d.name) t) (rest : Text) :
    ∃ behind, readDialect (t ++ rest) = .ok (d, behind) ∧ skipBlanks behind = skipBlanks rest := by
  obtain ⟨u, behind, hblanks, hread, hbehind⟩ := readString_padded h rest
  refine ⟨behind, ?_, hbehind⟩
  simp [readDialect, hblanks, hread, exactDialect?_name, bind, Except.bind, pure, Except.pure]

theorem readStrings_skipBlanks (fuel : Nat) (t : Text) :
    readStrings fuel (skipBlanks t) = readStrings fuel t := by
  cases fuel <;> simp [readStrings]

theorem readStrings_append {strings : List Text} {t : Text}
    (h : WrittenItems (strings.map .string) t) {fuel : Nat} (hfuel : t.length < fuel)
    (rest : Text) :
    readStrings fuel (t ++ ']' :: rest) = .ok (strings, rest) := by
  induction strings generalizing t fuel with
  | nil => cases h
  | cons s strings ih =>
      obtain ⟨fuel, rfl⟩ : ∃ k, fuel = k + 1 := ⟨fuel - 1, by omega⟩
      rw [List.map_cons] at h
      generalize hitems : strings.map Value.string = items at h
      cases h with
      | last hstring =>
          obtain rfl : strings = [] := by simpa using hitems
          obtain ⟨u, behind, hblanks, hread, hbehind⟩ := readString_padded hstring (']' :: rest)
          simp [readStrings, hblanks, hread, hbehind, skipBlanks_cons, isBlank, bind, Except.bind,
            pure, Except.pure]
      | @more _ _ t w hstring hmore =>
          subst hitems
          simp only [List.length_append, List.length_cons] at hfuel
          obtain ⟨u, behind, hblanks, hread, hbehind⟩ :=
            readString_padded hstring (',' :: (w ++ ']' :: rest))
          obtain ⟨c, u', hc, _, hblanks'⟩ := hmore.trim
          have hrest : readStrings fuel (w ++ ']' :: rest) = .ok (strings, rest) :=
            ih hmore (by omega)
          rw [← readStrings_skipBlanks, hblanks'] at hrest
          simp [readStrings, hblanks, hread, hbehind, skipBlanks_cons, isBlank, bind, Except.bind,
            pure, Except.pure, hblanks', hc.spec.2, hrest]

theorem readExtensions_append {extensions : List Text} {t : Text}
    (h : Padded (.array (extensions.map .string)) t) (rest : Text) :
    ∃ behind, readExtensions (t ++ rest) = .ok (extensions, behind) ∧
      skipBlanks behind = skipBlanks rest := by
  generalize hitems : extensions.map Value.string = items at h
  cases h with
  | @mk _ before t behind hbefore hwritten hbehind =>
      refine ⟨behind ++ rest, ?_, skipBlanks_append hbehind rest⟩
      rw [List.append_assoc, readExtensions, skipBlanks_append hbefore]
      cases hwritten with
      | emptyArray hblanks =>
          obtain rfl : extensions = [] := by simpa using hitems
          simp [skipBlanks_cons, isBlank, skipBlanks_append hblanks]
      | array hwritten =>
          subst hitems
          obtain ⟨c, u, hc, htrim, hblanks⟩ := hwritten.trim
          have hread : readStrings ((c :: (u ++ ']' :: (behind ++ rest))).length + 1)
              (c :: (u ++ ']' :: (behind ++ rest))) = .ok (extensions, behind ++ rest) :=
            readStrings_append htrim
              (by simp only [List.length_cons, List.length_append]; omega) (behind ++ rest)
          simp only [List.length_cons, List.length_append] at hread
          simp [skipBlanks_cons, isBlank, hblanks, hc.spec.2, hread]

theorem readColon_append {blanks : Text} (h : IsBlanks blanks) (t : Text) :
    readColon (blanks ++ ':' :: t) = .ok t := by
  simp [readColon, skipBlanks_append h, skipBlanks_cons, isBlank]

theorem readField_append {sofar given : Partial} {name : Text} {v : Value} {blanks t rest : Text}
    (h : Sets sofar (name, v) given) (hblanks : IsBlanks blanks) (hvalue : Padded v t)
    (hrest : EndsNumber rest) :
    ∃ behind, readField ⟨true⟩ sofar name (blanks ++ ':' :: (t ++ rest)) = .ok (given, behind) ∧
      skipBlanks behind = skipBlanks rest := by
  cases h with
  | dialect d hfree =>
      obtain ⟨behind, hread, hbehind⟩ := readDialect_append hvalue rest
      refine ⟨behind, ?_, hbehind⟩
      simp [readField, hfree, readColon_append hblanks, hread, bind, Except.bind, pure, Except.pure]
  | docExtensions extensions hfree =>
      obtain ⟨behind, hread, hbehind⟩ := readExtensions_append hvalue rest
      refine ⟨behind, ?_, hbehind⟩
      simp [readField, hfree, readColon_append hblanks, hread, bind, Except.bind, pure, Except.pure]
  | other hdialect hextensions =>
      obtain ⟨behind, hskip, hbehind⟩ := skip_append hvalue hrest
      refine ⟨behind, ?_, hbehind⟩
      rw [readField, if_neg hdialect, if_neg fun h => hextensions h.2, readColon_append hblanks]
      simp only [hskip, bind, Except.bind, pure, Except.pure]

theorem readMembers_member {sofar given : Partial} {m : Text × Value} {t rest : Text}
    (h : Sets sofar m given) (hmember : WrittenMember m t) (hrest : EndsNumber rest) (fuel : Nat) :
    readMembers ⟨true⟩ (fuel + 1) sofar (t ++ rest) =
      match skipBlanks rest with
      | [] => .error .unfinished
      | '\x7d' :: rest => .ok (given, rest)
      | ',' :: rest => readMembers ⟨true⟩ fuel given rest
      | _ => .error .malformed := by
  cases hmember with
  | mk hbefore hname hbehind hvalue =>
      obtain ⟨behind, hread, hblanks⟩ := readField_append h hbehind hvalue hrest
      simp [readMembers, skipBlanks_append hbefore, readString_append hname, hread,
        skipBlanks_cons, isBlank, bind, Except.bind, pure, Except.pure]
      exact hblanks ▸ rfl

theorem readMembers_append {members : List (Text × Value)} {t : Text}
    (h : WrittenMembers members t) {sofar given : Partial} (hsets : SetsAll sofar members given)
    {fuel : Nat} (hfuel : t.length < fuel) (rest : Text) :
    readMembers ⟨true⟩ fuel sofar (t ++ '\x7d' :: rest) = .ok (given, rest) := by
  induction hsets generalizing t fuel with
  | nil => cases h
  | @cons sofar next given m members hset hsets ih =>
      obtain ⟨fuel, rfl⟩ : ∃ k, fuel = k + 1 := ⟨fuel - 1, by omega⟩
      cases h with
      | last hmember =>
          cases hsets
          rw [readMembers_member hset hmember (endsNumber_cons (by decide) rest)]
          simp [skipBlanks_cons, isBlank]
      | @more _ _ t u hmember hmembers =>
          simp only [List.length_append, List.length_cons] at hfuel
          rw [List.append_assoc, List.cons_append, readMembers_member hset hmember
            (endsNumber_cons (by decide) (u ++ '\x7d' :: rest))]
          simpa [skipBlanks_cons, isBlank] using ih hmembers (by omega)

theorem read_object {members : List (Text × Value)} {t : Text} (h : Padded (.object members) t)
    {given : Partial} (hsets : SetsAll {} members given) : read ⟨true⟩ t = .ok given := by
  cases h with
  | @mk _ before t behind hbefore hwritten hbehind =>
      have hend : skipBlanks behind = [] := by
        simpa [skipBlanks] using skipBlanks_append hbehind []
      rw [read, skipBlanks_append hbefore]
      cases hwritten with
      | emptyObject hblanks =>
          cases hsets
          simp [skipBlanks_cons, isBlank, skipBlanks_append hblanks, hend, bind, Except.bind, pure,
            Except.pure]
      | object hwritten =>
          obtain ⟨u, htrim, hblanks⟩ := hwritten.trim
          have hread : readMembers ⟨true⟩ (('"' :: (u ++ '\x7d' :: behind)).length + 1) {}
              ('"' :: (u ++ '\x7d' :: behind)) = .ok (given, behind) :=
            readMembers_append htrim hsets
              (by simp only [List.length_cons, List.length_append]; omega) behind
          simp only [List.length_cons, List.length_append] at hread
          simp [skipBlanks_cons, isBlank, hblanks, hread, hend, bind, Except.bind, pure,
            Except.pure]

/-- An object that gives a dialect and a list of extensions, each of them once or not at all, is
read whatever its other members are and however it is laid out. What it does not give is the
default. -/
theorem readVerifyOptions_of_configures {members : List (Text × Value)} {t : Text}
    {dialect? : Option Dialect} {docExtensions? : Option (List Text)}
    (ht : Padded (.object members) t) (h : Configures members dialect? docExtensions?) :
    ∃ options, readVerifyOptions t = .ok options ∧ options.dialect = dialect?.getD .commonmark ∧
      options.docExtensions.toFinset =
        (docExtensions?.getD [".md".toList, ".markdown".toList]).toFinset ∧
      ∀ extension, options.isDocExtension extension = true ↔
        extension ∈ docExtensions?.getD [".md".toList, ".markdown".toList] := by
  have hsets : SetsAll {} members ⟨dialect?, docExtensions?⟩ := h.setsAll (.inr rfl) (.inr rfl)
  have hread := read_object ht hsets
  refine ⟨⟨dialect?.getD .commonmark, docExtensions?.getD defaultDocExtensions⟩, ?_, rfl, rfl, ?_⟩
  · simp [readVerifyOptions, hread, bind, Except.bind, pure, Except.pure]
  · intro extension
    exact List.contains_iff_mem

theorem readVerifyOptions_behind_unknown_member :
    let members : List (Text × Value) :=
      [("x".toList, .array [.object [], .null]),
        ("docExtensions".toList, .array [.string ".md".toList]),
        ("dialect".toList, .string "gfm".toList)]
    let t := "\x7b\"x\":[\x7b\x7d,null],\"\\u0064ocExtensions\" : [\"\\u002emd\"],".toList ++
      "\"dialect\":\"gfm\"\x7d\n".toList
    Padded (.object members) t ∧ Configures members (some .gfm) (some [".md".toList]) ∧
      ∃ options, readVerifyOptions t = .ok options ∧ options.dialect = .gfm ∧
        options.docExtensions.toFinset = [".md".toList].toFinset ∧
          ∀ extension, options.isDocExtension extension = true ↔ extension ∈ [".md".toList] := by
  intro members t
  have hspace : IsBlanks [' '] := by simp [IsBlanks]
  have hnewline : IsBlanks ['\n'] := by simp [IsBlanks]
  have hdot : IsHex '.'.toNat "002e".toList := ⟨rfl, rfl⟩
  have hletter : IsHex 'd'.toNat "0064".toList := ⟨rfl, rfl⟩
  have hunknown : WrittenMember ("x".toList, .array [.object [], .null])
      "\"x\":[\x7b\x7d,null]".toList :=
    .mk isBlanks_nil (.plain (s := "x".toList) (by simp)) isBlanks_nil
      (Written.array (.more (Written.emptyObject isBlanks_nil).padded
        (.last Written.null.padded))).padded
  have hextension : WrittenChars ".md".toList "\\u002emd".toList :=
    .cons (.unit hdot) (.plain (s := "md".toList) (by simp))
  have hname : WrittenChars "docExtensions".toList "\\u0064ocExtensions".toList :=
    .cons (.unit hletter) (.plain (s := "ocExtensions".toList) (by simp))
  have hextensions : WrittenMember ("docExtensions".toList, .array [.string ".md".toList])
      "\"\\u0064ocExtensions\" : [\"\\u002emd\"]".toList :=
    .mk isBlanks_nil hname hspace
      (.mk hspace (.array (.last (Written.string hextension).padded)) isBlanks_nil)
  have hdialect : WrittenMember ("dialect".toList, .string "gfm".toList)
      "\"dialect\":\"gfm\"".toList :=
    .mk isBlanks_nil (.plain (s := "dialect".toList) (by simp)) isBlanks_nil
      (Written.string (.plain (s := "gfm".toList) (by simp))).padded
  have ht : Padded (.object members) t :=
    .mk isBlanks_nil (.object (.more hunknown (.more hextensions (.last hdialect)))) hnewline
  have h : Configures members (some .gfm) (some [".md".toList]) := by
    constructor <;> rfl
  exact ⟨ht, h, readVerifyOptions_of_configures ht h⟩

end Config

end DocLinks
