import DocLinks.Disk
import DocLinks.Proofs.Verify.LazyRead

namespace DocLinks

open Place

/-- A link with an anchor to be looked up in a file below the base that is there and that cannot
be read. -/
inductive FailsToRead (fs : FileSystem) (base : Place) (document : Document)
    (options : VerifyOptions) (link : Link) : Path → ReadFailure → Prop
  | file {target anchor : Text} {place : Place} {failure : ReadFailure} :
      link.url = none →
      link.href.head? ≠ some '#' →
      Cut link.href target (some anchor) →
      place = (document.directory base).follow ⟨target⟩ →
      place ≠ document.place base →
      place.IsBelow base →
      fs.isPresent place.toPath = true →
      fs.isDirectory place.toPath = false →
      anchor ≠ [] →
      isDocumentPath options place.toPath = true ∨ place.toPath.isPlainText = true →
      fs.readBytes place.toPath = .error failure →
      FailsToRead fs base document options link place.toPath failure

theorem DiskNode.isDirectory_of_entry? {node child : DiskNode} {name : Text}
    (h : node.entry? name = some child) : node.isDirectory = true := by
  cases node with
  | directory entries => rfl
  | file | socket | link => cases h

namespace Disk

variable {disk : Disk} {path : Path} {here : List Text} {node : DiskNode} {name : Text}

theorem isPresent_eq_false {failure : ReadFailure} (h : disk.find path = .error failure) :
    disk.fileSystem.isPresent path = false := by
  simp [fileSystem, h, Except.toBool]

theorem find_eq_walk (hnul : '\x00' ∉ path.text) (hlength : Text.utf8Length path.text < maxPath)
    (hne : path.text ≠ []) : disk.find path = disk.walk maxLinks [] (namesOf path.text) := by
  rw [find, if_neg hnul, if_neg (Nat.not_le.mpr hlength), if_neg hne]

theorem walk_nil (hnode : disk.root.at? here.reverse = some node) (links : Nat) :
    disk.walk links here [] = .ok node := by
  rw [walk]
  simp [hnode]

theorem walk_entry {child : DiskNode} (hnode : disk.root.at? here.reverse = some node)
    (hentry : node.entry? name = some child) (hchild : ∀ target, child ≠ .link target)
    (hname : name ≠ ['.'] ∧ name ≠ ['.', '.'] ∧ Text.utf8Length name ≤ maxName) (links : Nat)
    (names : List Text) :
    disk.walk links here (name :: names) = disk.walk links (name :: here) names := by
  have hdirectory := DiskNode.isDirectory_of_entry? hentry
  obtain ⟨hdot, hdots, hlength⟩ := hname
  rw [walk]
  cases child with
  | link target => exact absurd rfl (hchild target)
  | file | socket | directory =>
      simp [hnode, hdirectory, hdot, hdots, Nat.not_lt.mpr hlength, hentry]

/-- The walk never gets past a symbolic link that leads to itself: each round takes one of the
links that may be followed. -/
theorem walk_self_link {target : Text} (hnode : disk.root.at? here.reverse = some node)
    (hentry : node.entry? name = some (.link target)) (htarget : namesOf target = [name])
    (hrelative : target.head? ≠ some '/')
    (hname : name ≠ ['.'] ∧ name ≠ ['.', '.'] ∧ Text.utf8Length name ≤ maxName) (links : Nat)
    (names : List Text) : disk.walk links here (name :: names) = .error .tooManyLinks := by
  have hdirectory := DiskNode.isDirectory_of_entry? hentry
  obtain ⟨hdot, hdots, hlength⟩ := hname
  induction links with
  | zero =>
      rw [walk]
      simp [hnode, hdirectory, hdot, hdots, Nat.not_lt.mpr hlength, hentry]
  | succ links ih =>
      rw [walk]
      simp [hnode, hdirectory, hdot, hdots, Nat.not_lt.mpr hlength, hentry, htarget, hrelative, ih]

end Disk

namespace Session

variable {fs : FileSystem} {s : Session} {link : Link} {e : CheckError}

theorem checkTargetAnchor_eq_error_iff {path : Path} {anchor : Text} :
    s.checkTargetAnchor fs path anchor = .error e ↔
      anchor ≠ [] ∧ fs.isDirectory path = false ∧
        (isDocumentPath s.options path = true ∨ path.isPlainText = true) ∧
        ∃ failure, fs.readBytes path = .error failure ∧ e = .unreadable path failure := by
  rw [← needsContent_anchorStrategy_iff]
  by_cases hanchor : anchor = []
  · simp [checkTargetAnchor, hanchor]
  cases hfile : fs.isDirectory path with
  | true => simp [checkTargetAnchor, hanchor, hfile]
  | false =>
      rw [checkTargetAnchor_of_file hanchor hfile]
      cases hcontent : (anchorStrategy path s.options).needsContent with
      | false => simp
      | true =>
          cases hbytes : fs.readBytes path with
          | ok bytes => simp
          | error failure => simp [hanchor, eq_comm]

theorem checkResolved_eq_error_iff {path : Path} {anchor : Option Text} :
    s.checkResolved fs path anchor = .error e ↔
      s.locate path = none ∧ fs.isPresent path = true ∧
        ∃ a, anchor = some a ∧ s.checkTargetAnchor fs path a = .error e := by
  unfold checkResolved
  cases hlocate : s.locate path with
  | some error => simp
  | none =>
      cases hpresent : fs.isPresent path with
      | false => simp
      | true => cases anchor <;> simp

theorem checkResolved_of_not_present {path : Path} (h : fs.isPresent path = false)
    (anchor : Option Text) :
    ∃ error, s.checkResolved fs path anchor = .ok (some (.file error)) := by
  unfold checkResolved
  cases hlocate : s.locate path with
  | some error => exact ⟨error, rfl⟩
  | none => exact ⟨.fileNotExists, by simp [h]⟩

variable {base : Path} {document : Document} {options : VerifyOptions}

theorem check_eq_error_iff :
    (⟨base.normalize, document, options⟩ : Session).check fs link = .error e ↔
      ∃ path failure, FailsToRead fs (ofPath base) document options link path failure ∧
        e = .unreadable path failure := by
  constructor
  · intro hcheck
    rcases link_cases link with hurl | ⟨anchor, hurl, hhref⟩ | ⟨hurl, hhref⟩
    · simp [check_of_url hurl] at hcheck
    · simp [check_of_pureAnchor hurl hhref] at hcheck
    · obtain ⟨target, anchor, hcut⟩ := exists_cut link.href
      rw [check_of_cut base document options hurl hhref hcut, checkResolved_eq_error_iff,
        locate_toPath_eq_none (isNormal_directory_follow base document ⟨target⟩)] at hcheck
      obtain ⟨⟨helsewhere, hbelow⟩, hpresent, a, rfl, htarget⟩ := hcheck
      obtain ⟨hanchor, hfile, hkind, failure, hbytes, rfl⟩ :=
        checkTargetAnchor_eq_error_iff.mp htarget
      exact ⟨_, failure, .file hurl hhref hcut rfl helsewhere hbelow hpresent hfile hanchor hkind
        hbytes, rfl⟩
  · rintro ⟨_, failure, hfails, rfl⟩
    obtain ⟨hurl, hhref, hcut, rfl, helsewhere, hbelow, hpresent, hfile, hanchor, hkind, hbytes⟩ :=
      hfails
    rw [check_of_cut base document options hurl hhref hcut, checkResolved_eq_error_iff,
      locate_toPath_eq_none (isNormal_directory_follow base document _)]
    exact ⟨⟨helsewhere, hbelow⟩, hpresent, _, rfl,
      checkTargetAnchor_eq_error_iff.mpr ⟨hanchor, hfile, hkind, failure, hbytes, rfl⟩⟩

theorem exists_check_eq_ok_of_unread {target : Text} {anchor : Option Text} (hurl : link.url = none)
    (hhref : link.href.head? ≠ some '#') (hcut : Cut link.href target anchor) {path : Path}
    (hpath : path = ((document.directory (ofPath base)).follow ⟨target⟩).toPath)
    (h : fs.isDirectory path = true ∨
      isDocumentPath options path = false ∧ path.isPlainText = false) :
    ∃ outcome, (⟨base.normalize, document, options⟩ : Session).check fs link = .ok outcome := by
  rw [check_of_cut base document options hurl hhref hcut, ← hpath]
  cases hcheck : (⟨base.normalize, document, options⟩ : Session).checkResolved fs path anchor with
  | ok outcome => exact ⟨outcome, rfl⟩
  | error e =>
      obtain ⟨_, _, a, _, htarget⟩ := checkResolved_eq_error_iff.mp hcheck
      obtain ⟨_, hfile, hkind, _⟩ := checkTargetAnchor_eq_error_iff.mp htarget
      simp_all

/-- The check of a link fails exactly when it leads to a file that has to be read for an anchor
and cannot be, and it fails under the path of this file; so the failures among the items of some
links are those of such links. In particular what the walk of a disk does not find, for whatever
reason, has a file error, and a directory or a file that has no anchors by its name never fails.
-/
theorem item?_eq_error_iff_failsToRead (habsolute : base.isAbsolute = true) (document : Document)
    (options : VerifyOptions) :
    ∃ s, start base document options = .ok s ∧
      (∀ fs link e, s.item? fs link = some (.error e) ↔
        ∃ path failure, FailsToRead fs (ofPath base) document options link path failure ∧
          e = .unreadable path failure) ∧
      (∀ fs links, ∃ items, verifyLinks fs base document links options = .ok items ∧
        ∀ e, .error e ∈ items ↔
          ∃ link ∈ links, ∃ path failure,
            FailsToRead fs (ofPath base) document options link path failure ∧
              e = .unreadable path failure) ∧
      ∀ (link : Link) (target : Text) (anchor : Option Text), link.url = none →
        link.href.head? ≠ some '#' → Cut link.href target anchor →
        let path := ((document.directory (ofPath base)).follow ⟨target⟩).toPath
        (∀ (disk : Disk) (failure : ReadFailure), disk.find path = .error failure →
          ∃ error, s.item? disk.fileSystem link = some (.ok ⟨.file error, link⟩)) ∧
        ∀ fs, fs.isDirectory path = true ∨
            isDocumentPath options path = false ∧ path.isPlainText = false →
          ∀ e, s.item? fs link ≠ some (.error e) := by
  refine ⟨_, start_of_isAbsolute habsolute document options, ?_, ?_, ?_⟩
  · intro fs link e
    rw [item?_eq_error_iff, check_eq_error_iff]
  · intro fs links
    refine ⟨_, verifyLinks_of_isAbsolute fs habsolute links, ?_⟩
    intro e
    simp only [List.mem_filterMap, item?_eq_error_iff, check_eq_error_iff]
  · intro link target anchor hurl hhref hcut path
    constructor
    · intro disk failure hfind
      obtain ⟨error, hcheck⟩ := checkResolved_of_not_present
        (s := ⟨base.normalize, document, options⟩) (Disk.isPresent_eq_false hfind) anchor
      refine ⟨error, item?_eq_ok_iff.mpr ⟨?_, rfl⟩⟩
      rw [check_of_cut base document options hurl hhref hcut, hcheck]
    · intro fs hunread e
      obtain ⟨outcome, hcheck⟩ := exists_check_eq_ok_of_unread hurl hhref hcut rfl hunread
      rw [ne_eq, item?_eq_error_iff, hcheck]
      simp

theorem socket_fails_and_loop_is_missing :
    let disk := (Disk.empty.write (.ofString "/b/socket.md") .socket).write
      (.ofString "/b/loop.md") (.link "loop.md".toList)
    let base := Path.ofString "/b/docs/.."
    let document : Document := ⟨.ofString "a.md", []⟩
    let socket := Link.relative ("socket.md".toList ++ '#' :: "x".toList)
    let loop := Link.relative ("./loop.md".toList ++ '#' :: "x".toList)
    let failure : CheckError := .unreadable (.ofString "/b/socket.md") .noSuchDevice
    base.isAbsolute = true ∧
      disk.find (.ofString "/b/loop.md") = .error .tooManyLinks ∧
      ∃ s, start base document {} = .ok s ∧
        s.item? disk.fileSystem socket = some (.error failure) ∧
        (∃ items, verifyLinks disk.fileSystem base document [loop, socket] {} = .ok items ∧
          .error failure ∈ items) ∧
        ∃ error, s.item? disk.fileSystem loop = some (.ok ⟨.file error, loop⟩) := by
  intro disk base document socket loop failure
  have habsolute : base.isAbsolute = true := by decide +kernel
  let entries : List (Text × DiskNode) :=
    [("loop.md".toList, .link "loop.md".toList), ("socket.md".toList, .socket)]
  have hdirectory : disk.root.at? [['b']].reverse = some (.directory entries) := rfl
  have hwalk (name : Text) : disk.walk Disk.maxLinks [] [['b'], name] =
      disk.walk Disk.maxLinks [['b']] [name] := by
    have hentry : disk.root.entry? ['b'] = some (.directory entries) := rfl
    exact Disk.walk_entry rfl hentry (by simp) (by decide +kernel) _ _
  have hloop : disk.find (.ofString "/b/loop.md") = .error .tooManyLinks := by
    have hnames : Disk.namesOf (Path.ofString "/b/loop.md").text = [['b'], "loop.md".toList] := by
      decide +kernel
    rw [Disk.find_eq_walk (by decide +kernel) (by decide +kernel) (by decide), hnames, hwalk]
    exact Disk.walk_self_link hdirectory rfl (by decide +kernel) (by decide) (by decide +kernel) _ _
  have hsocket : disk.find (.ofString "/b/socket.md") = .ok .socket := by
    have hnames : Disk.namesOf (Path.ofString "/b/socket.md").text =
        [['b'], "socket.md".toList] := by
      decide +kernel
    rw [Disk.find_eq_walk (by decide +kernel) (by decide +kernel) (by decide), hnames, hwalk,
      Disk.walk_entry hdirectory rfl (by simp) (by decide +kernel)]
    exact Disk.walk_nil rfl _
  have hpresent : disk.fileSystem.isPresent (.ofString "/b/socket.md") = true := by
    simp [Disk.fileSystem, hsocket, Except.toBool]
  have hfile : disk.fileSystem.isDirectory (.ofString "/b/socket.md") = false := by
    simp [Disk.fileSystem, hsocket, DiskNode.isDirectory]
  have hbytes : disk.fileSystem.readBytes (.ofString "/b/socket.md") = .error .noSuchDevice := by
    simp [Disk.fileSystem, hsocket]
  have hfails : FailsToRead disk.fileSystem (ofPath base) document {} socket
      (.ofString "/b/socket.md") .noSuchDevice := by
    have hcut : Cut socket.href "socket.md".toList (some "x".toList) := .anchored (by decide)
    have hplace : ofPath (.ofString "/b/socket.md") =
        (document.directory (ofPath base)).follow ⟨"socket.md".toList⟩ := by
      decide +kernel
    refine .file rfl ?_ hcut hplace ?_ ?_ hpresent hfile ?_ (Or.inl ?_) hbytes
    all_goals decide +kernel
  obtain ⟨s, hstart, hitem, hitems, hmissing⟩ :=
    item?_eq_error_iff_failsToRead habsolute document {}
  refine ⟨habsolute, hloop, s, hstart, (hitem _ _ _).mpr ⟨_, _, hfails, rfl⟩, ?_, ?_⟩
  · obtain ⟨items, hverify, herrors⟩ := hitems disk.fileSystem [loop, socket]
    exact ⟨items, hverify, (herrors _).mpr ⟨socket, by simp, _, _, hfails, rfl⟩⟩
  · have hcut : Cut loop.href "./loop.md".toList (some "x".toList) := .anchored (by decide)
    exact (hmissing loop _ _ rfl (by decide) hcut).1 disk .tooManyLinks hloop

end Session

end DocLinks
