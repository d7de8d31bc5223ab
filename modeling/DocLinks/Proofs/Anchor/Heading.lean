import DocLinks.Anchor.Resolve
import DocLinks.Proofs.Anchor.LinePointer
import DocLinks.Proofs.Markdown.Headings
import DocLinks.Proofs.Slug.Alphabet

namespace DocLinks

theorem allows_anchor {slugger : Slugger} {root : Markdown.Node} {heading : Heading}
    (h : heading ∈ headingsInTree slugger root) :
    ∀ c ∈ heading.anchor, slugger.style.Allows c := by
  have hanchor : heading.anchor ∈ (headingsInTree slugger root).map Heading.anchor :=
    List.mem_map_of_mem h
  rw [headingsInTree, map_anchor_headingsOf] at hanchor
  exact slugger.allows_run _ heading.anchor hanchor

theorem matchHeading_of_outside_alphabet {anchor : Text} {c : Char} (hc : c ∈ anchor)
    (hascii : Text.isAscii c = true) (houtside : isAnchorChar c = false) (content : Text)
    (dialect : Dialect) : matchHeading anchor content dialect = .failed .headingMatchFail := by
  have hnone : ¬ (headingsIn dialect content).any fun heading => heading.anchor == anchor := by
    rw [List.any_eq_true]
    rintro ⟨heading, hheading, heq⟩
    rw [← beq_iff_eq.mp heq] at hc
    have hallowed := (allows_anchor hheading c hc).isAnchorChar (Or.inl hascii)
    exact absurd (hallowed.symm.trans houtside) (by decide)
  rw [matchHeading, if_neg hnone]

/-- Anchors of headings keep to the alphabet of slugs, in every tree and whatever the slugger has
handed out before. So an anchor with an ASCII character outside it leads to no heading of any
content, and neither does a line pointer. -/
theorem heading_anchors_keep_alphabet :
    (∀ (style : SlugStyle) (seeds : List Text) (root : Markdown.Node),
      ∀ heading ∈ headingsInTree ((Slugger.new style).run seeds).2 root,
        ∀ c ∈ heading.anchor,
          (Text.isAscii c = true → isAnchorChar c = true) ∧
            (style = .plain → isAnchorChar c = true)) ∧
    ∀ (dialect : Dialect) (content anchor : Text),
      ((∃ c ∈ anchor, Text.isAscii c = true ∧ isAnchorChar c = false) →
        checkAnchor .headings anchor content dialect = .failed .headingMatchFail) ∧
      ∀ pointer, LinePointer.Written pointer anchor →
        checkAnchor .headings anchor content dialect = .failed .headingMatchFail := by
  have houtside : ∀ (dialect : Dialect) (content anchor : Text),
      (∃ c ∈ anchor, Text.isAscii c = true ∧ isAnchorChar c = false) →
        checkAnchor .headings anchor content dialect = .failed .headingMatchFail := by
    rintro dialect content anchor ⟨c, hc, hascii, hchar⟩
    rw [checkAnchor, if_neg (List.ne_nil_of_mem hc)]
    exact matchHeading_of_outside_alphabet hc hascii hchar content dialect
  refine ⟨?_, fun dialect content anchor => ⟨houtside dialect content anchor, ?_⟩⟩
  · intro style seeds root heading hheading c hc
    have hallows := allows_anchor hheading c hc
    rw [Slugger.style_run] at hallows
    exact ⟨fun hascii => hallows.isAnchorChar (Or.inl hascii),
      fun hplain => hallows.isAnchorChar (Or.inr hplain)⟩
  · intro pointer hwritten
    have hcapital : 'L' ∈ anchor := List.mem_of_head? hwritten.head?_eq
    exact houtside dialect content anchor ⟨'L', hcapital, by decide, by decide⟩

theorem heading_of_line_pointer_text_keeps_alphabet :
    let content := "# L3 \u212a".toList
    let seeds := ["l3 k".toList]
    (∃ heading ∈ headingsInTree ((Slugger.new .hub).run seeds).2 (Markdown.read .gfm content),
      heading.anchor = "l3-k-1".toList ∧
        ∀ c ∈ heading.anchor, Text.isAscii c = true → isAnchorChar c = true) ∧
    (∃ c ∈ "l3 k".toList, Text.isAscii c = true ∧ isAnchorChar c = false) ∧
      checkAnchor .headings "l3 k".toList content .gfm = .failed .headingMatchFail ∧
    LinePointer.Written (.line ['3']) "L3".toList ∧
      checkAnchor .headings "L3".toList content .gfm = .failed .headingMatchFail := by
  intro content seeds
  obtain ⟨halphabet, hfails⟩ := heading_anchors_keep_alphabet
  obtain ⟨heading, hheading, hanchor⟩ : ∃ heading ∈
      headingsInTree ((Slugger.new .hub).run seeds).2 (Markdown.read .gfm content),
        heading.anchor = "l3-k-1".toList := by
    decide +kernel
  have hblank : ∃ c ∈ "l3 k".toList, Text.isAscii c = true ∧ isAnchorChar c = false :=
    ⟨' ', by decide, by decide, by decide⟩
  have hwritten : LinePointer.Written (.line ['3']) "L3".toList :=
    LinePointer.parse?_eq_some_iff.mp (by decide)
  refine ⟨⟨heading, hheading, hanchor, ?_⟩, hblank, ?_, hwritten, ?_⟩
  · intro c hc
    exact (halphabet .hub seeds _ heading hheading c hc).1
  · exact (hfails .gfm content _).1 hblank
  · exact (hfails .gfm content _).2 _ hwritten

end DocLinks
