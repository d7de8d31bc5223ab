import DocLinks.Proofs.Verify.Check
import Mathlib.Data.List.Perm.Basic

namespace DocLinks.Session

variable {fs : FileSystem} {s : Session} {links rest : List Link}
  {item : Except CheckError LinkError} {items : List (Except CheckError LinkError)}

/-- The items of all calls, up to the first call that has none. -/
inductive Calls (fs : FileSystem) (s : Session) :
    List Link → List (Except CheckError LinkError) → Prop
  | ended {links : List Link} : s.next? fs links = none → Calls fs s links []
  | told {links rest : List Link} {item : Except CheckError LinkError}
      {items : List (Except CheckError LinkError)} : s.next? fs links = some (item, rest) →
        Calls fs s rest items → Calls fs s links (item :: items)

theorem next?_eq_none_iff : s.next? fs links = none ↔ ∀ link ∈ links, s.item? fs link = none := by
  induction links with
  | nil => simp [next?]
  | cons link links ih =>
      rw [next?, List.forall_mem_cons]
      cases hitem : s.item? fs link with
      | some item => simp
      | none => simp [ih]

theorem next?_eq_some_iff :
    s.next? fs links = some (item, rest) ↔
      ∃ passed link, links = passed ++ link :: rest ∧ (∀ l ∈ passed, s.item? fs l = none) ∧
        s.item? fs link = some item := by
  induction links with
  | nil => simp [next?]
  | cons first links ih =>
      rw [next?]
      cases hfirst : s.item? fs first with
      | some told =>
          constructor
          · rintro ⟨⟩
            exact ⟨[], first, rfl, by simp, hfirst⟩
          · rintro ⟨passed, link, hlinks, hpassed, hlink⟩
            cases passed with
            | nil =>
                obtain ⟨rfl, rfl⟩ := List.cons.inj hlinks
                rw [Option.some.inj (hfirst.symm.trans hlink)]
            | cons l passed =>
                obtain ⟨rfl, _⟩ := List.cons.inj hlinks
                rw [hpassed first List.mem_cons_self] at hfirst
                cases hfirst
      | none =>
          rw [ih]
          constructor
          · rintro ⟨passed, link, rfl, hpassed, hlink⟩
            exact ⟨first :: passed, link, rfl, List.forall_mem_cons.mpr ⟨hfirst, hpassed⟩, hlink⟩
          · rintro ⟨passed, link, hlinks, hpassed, hlink⟩
            cases passed with
            | nil =>
                obtain ⟨rfl, _⟩ := List.cons.inj hlinks
                rw [hlink] at hfirst
                cases hfirst
            | cons l passed =>
                obtain ⟨rfl, rfl⟩ := List.cons.inj hlinks
                exact ⟨passed, link, rfl, (List.forall_mem_cons.mp hpassed).2, hlink⟩

theorem Calls.eq_filterMap (h : Calls fs s links items) :
    items = links.filterMap (s.item? fs) := by
  induction h with
  | ended hnext =>
      rw [next?_eq_none_iff] at hnext
      exact (List.filterMap_eq_nil_iff.mpr hnext).symm
  | told hnext _ ih =>
      obtain ⟨passed, link, rfl, hpassed, hlink⟩ := next?_eq_some_iff.mp hnext
      rw [List.filterMap_append, List.filterMap_eq_nil_iff.mpr hpassed,
        List.filterMap_cons_some hlink, ih, List.nil_append]

theorem calls_items (fs : FileSystem) (s : Session) (links : List Link) :
    Calls fs s links (s.items fs links) := by
  fun_induction items fs s links with
  | case1 links hnext => exact .ended hnext
  | case2 links item rest hnext ih => exact .told hnext ih

theorem calls_iff : Calls fs s links items ↔ items = links.filterMap (s.item? fs) := by
  constructor
  · exact Calls.eq_filterMap
  · rintro rfl
    rw [← items_eq_filterMap]
    exact calls_items fs s links

/-- In every session the calls come to an end, and together they give, in the order of the links,
what there is to tell of each link by itself; a call goes on right behind the link that the one
before has told of, and a link error holds its own link. So more links behind only add their own
items, and links in another order have the same items in that order. -/
theorem calls_tell_of_each_link_by_itself {base : Path} {document : Document}
    {options : VerifyOptions} (hs : start base document options = .ok s) (fs : FileSystem) :
    (∀ links items, Calls fs s links items ↔ items = links.filterMap (s.item? fs)) ∧
      (∀ links, ∃ items, verifyLinks fs base document links options = .ok items ∧
        Calls fs s links items) ∧
      (∀ links item rest, s.next? fs links = some (item, rest) →
        ∃ passed link, links = passed ++ link :: rest ∧ (∀ l ∈ passed, s.item? fs l = none) ∧
          s.item? fs link = some item) ∧
      (∀ link error, s.item? fs link = some (.ok error) → error.link = link) ∧
      (∀ links more items others, Calls fs s links items → Calls fs s more others →
        Calls fs s (links ++ more) (items ++ others)) ∧
      ∀ links permuted items others, links.Perm permuted → Calls fs s links items →
        Calls fs s permuted others → items.Perm others := by
  refine ⟨fun _ _ => calls_iff, ?_, fun _ _ _ => next?_eq_some_iff.mp, ?_, ?_, ?_⟩
  · intro links
    refine ⟨s.items fs links, ?_, calls_items fs s links⟩
    rw [verifyLinks, hs]
    rfl
  · intro link error hitem
    exact (item?_eq_ok_iff.mp hitem).2
  · intro links more items others hitems hothers
    rw [calls_iff] at hitems hothers ⊢
    rw [List.filterMap_append, hitems, hothers]
  · intro links permuted items others hperm hitems hothers
    rw [hitems.eq_filterMap, hothers.eq_filterMap]
    exact hperm.filterMap _

theorem calls_go_on_behind_failure :
    let base := Path.ofString "/b"
    let document : Document := ⟨.ofString "a.md", []⟩
    let s : Session := ⟨base, document, {}⟩
    let fs : FileSystem := ⟨fun path => path == .ofString "/b/c.h", fun _ => false,
      fun _ => .error .noSuchDevice⟩
    let lost := Link.relative "lost.md".toList
    let header := Link.relative "c.h".toList
    let line := Link.relative ("c.h".toList ++ '#' :: "L1".toList)
    let own := Link.relative ['#']
    let failure : CheckError := .unreadable (.ofString "/b/c.h") .noSuchDevice
    start base document {} = .ok s ∧
      Calls fs s [lost, header, line, own]
        [.ok ⟨.file .fileNotExists, lost⟩, .error failure, .ok ⟨.anchor .emptyAnchor, own⟩] ∧
      s.next? fs [header, line, own] = some (.error failure, [own]) := by
  intro base document s fs lost header line own failure
  have hs : start base document {} = .ok s := by
    have hbase : base.isAbsolute = true ∧ base.normalize = base := by decide +kernel
    rw [start_of_isAbsolute hbase.1, hbase.2]
  obtain ⟨hcalls, _⟩ := calls_tell_of_each_link_by_itself hs fs
  refine ⟨hs, (hcalls _ _).mpr ?_, ?_⟩ <;> decide +kernel

end DocLinks.Session
