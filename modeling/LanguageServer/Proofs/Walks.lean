import LanguageServer.Files.Discovery
import LanguageServer.Proofs.Paths

namespace LanguageServer
namespace Files

/-!
# A walk comes across nothing twice

Trees are considered that a file system can hold: a directory has no two entries of one name, and
no name would be read as something else in a path.  Writing files keeps a tree that way.  A walk of
such a tree comes across what stands below its root, and across no path twice, whatever is ignored.
-/

namespace Tree

def kind : Tree -> EntryKind
  | .file _ => .file
  | .directory _ => .directory

/-- A tree as a file system has it: the entries of a directory have different names, and none that
would be read as something else in a path. -/
inductive Proper : Tree -> Prop where
  | file (contents : List UInt8) : Proper (.file contents)
  | directory {entries : List (String × Tree)} (distinct : (entries.map Prod.fst).Nodup)
      (regular : forall name node, (name, node) ∈ entries -> (Path.ofText name).IsName)
      (below : forall name node, (name, node) ∈ entries -> Proper node) :
      Proper (.directory entries)

/-! ## Places in a tree -/

/-- Names that differ lead each to its own entry. -/
theorem lookup_eq_some_iff {entries : List (String × Tree)}
    (distinct : (entries.map Prod.fst).Nodup) {name : String} {node : Tree} :
    entries.lookup name = some node ↔ (name, node) ∈ entries := by
  induction entries with
  | nil => simp
  | cons entry rest inductionHypothesis =>
      rcases entry with ⟨first, tree⟩
      rw [List.map_cons, List.nodup_cons] at distinct
      rcases distinct with ⟨fresh, later⟩
      rw [List.lookup_cons, List.mem_cons, Prod.mk.injEq]
      by_cases same : name = first
      · subst same
        have absent : (name, node) ∉ rest := fun member => fresh (List.mem_map.mpr ⟨_, member, rfl⟩)
        simp [absent, eq_comm]
      · have other : (name == first) = false := beq_false_of_ne same
        rw [other, inductionHypothesis later]
        simp [same]

theorem Proper.find? {tree node : Tree} {place : Place} (proper : tree.Proper)
    (found : tree.find? place = some node) : node.Proper := by
  induction place generalizing tree with
  | nil =>
      cases found
      exact proper
  | cons name rest inductionHypothesis =>
      rcases Option.bind_eq_some_iff.mp found with ⟨next, led, behind⟩
      cases proper with
      | file contents => cases led
      | directory distinct regular below =>
          exact inductionHypothesis (below name next ((lookup_eq_some_iff distinct).mp led)) behind

/-- All names on the way to something are names. -/
theorem Proper.isName {tree node : Tree} {place : Place} (proper : tree.Proper)
    (found : tree.find? place = some node) {name : String} (member : name ∈ place) :
    (Path.ofText name).IsName := by
  induction place generalizing tree with
  | nil => cases member
  | cons first rest inductionHypothesis =>
      rcases Option.bind_eq_some_iff.mp found with ⟨next, led, behind⟩
      cases proper with
      | file contents => cases led
      | directory distinct regular below =>
          have here := (lookup_eq_some_iff distinct).mp led
          rcases List.mem_cons.mp member with rfl | later
          · exact regular name next here
          · exact inductionHypothesis (below first next here) behind later

/-! ## Following a path -/

/-- A name that is followed leads nowhere else, back, or to an entry. -/
theorem follow_cases {tree : Tree} {place next : Place} {name : Path}
    (led : tree.follow place name = .ok next) :
    next = place ∨ next = place.dropLast ∨
    (name ≠ [Path.dot] ∧ name ≠ [Path.dot, Path.dot] ∧
      exists letters, Text.Utf8.decode? name = some letters ∧
        next = place ++ [String.ofList letters] ∧ (tree.find? next).isSome) := by
  rw [follow] at led
  split at led
  · cases led
  split at led
  · cases led
    exact Or.inl rfl
  split at led
  · cases led
    exact Or.inr (Or.inl rfl)
  next notDot notDots =>
    split at led
    · cases led
    split at led
    · cases led
    next letters read =>
      dsimp only at led
      split at led
      next there =>
        cases led
        exact Or.inr (Or.inr ⟨notDot, notDots, letters, read, rfl, there⟩)
      · cases led

/-! ## Trees that are written -/

theorem mem_setEntry {entries : List (String × Tree)} {name other : String} {tree node : Tree}
    (member : (other, node) ∈ setEntry entries name tree) :
    (other = name ∧ node = tree) ∨ (other, node) ∈ entries := by
  rw [setEntry] at member
  split at member
  · rcases List.mem_map.mp member with ⟨⟨first, old⟩, inside, same⟩
    split at same
    · cases same
      exact Or.inl ⟨rfl, rfl⟩
    · cases same
      exact Or.inr inside
  · rcases List.mem_append.mp member with inside | last
    · exact Or.inr inside
    · cases List.mem_singleton.mp last
      exact Or.inl ⟨rfl, rfl⟩

theorem nodup_setEntry {entries : List (String × Tree)} {name : String} {tree : Tree}
    (distinct : (entries.map Prod.fst).Nodup) :
    ((setEntry entries name tree).map Prod.fst).Nodup := by
  rw [setEntry]
  split
  · have names : (entries.map (fun entry => if entry.1 = name then (name, tree) else entry)).map
        Prod.fst = entries.map Prod.fst := by
      rw [List.map_map]
      apply List.map_congr_left
      intro entry _
      dsimp only [Function.comp]
      split
      next same => exact same.symm
      next => rfl
    rw [names]
    exact distinct
  next absent =>
    rw [List.map_append, List.nodup_append]
    refine ⟨distinct, by simp, ?_⟩
    intro other inside last isLast same
    cases List.mem_singleton.mp isLast
    subst same
    rcases List.mem_map.mp inside with ⟨⟨_, node⟩, member, rfl⟩
    rw [(lookup_eq_some_iff distinct).mpr member] at absent
    exact absent rfl

theorem Proper.empty : Tree.empty.Proper :=
  .directory List.nodup_nil (fun _ _ member => absurd member List.not_mem_nil)
    (fun _ _ member => absurd member List.not_mem_nil)

theorem Proper.put? {node : Tree} (sound : node.Proper) {place : Place} {tree changed : Tree}
    (proper : tree.Proper) (regular : forall name, name ∈ place -> (Path.ofText name).IsName)
    (put : Tree.put? node place tree = some changed) : changed.Proper := by
  induction place generalizing tree changed with
  | nil =>
      cases put
      exact sound
  | cons name rest inductionHypothesis =>
      rcases List.forall_mem_cons.mp regular with ⟨here, later⟩
      cases proper with
      | file contents => cases put
      | @directory entries distinct names below =>
          rcases Option.map_eq_some_iff.mp put with ⟨next, inside, rfl⟩
          have child : ((entries.lookup name).getD Tree.empty).Proper := by
            cases found : entries.lookup name with
            | none => exact Proper.empty
            | some old => exact below name old ((lookup_eq_some_iff distinct).mp found)
          have nextProper := inductionHypothesis child later inside
          refine .directory (nodup_setEntry distinct) ?_ ?_ <;> intro other node member <;>
            rcases mem_setEntry member with ⟨rfl, rfl⟩ | old
          · exact here
          · exact names other node old
          · exact nextProper
          · exact below other node old

theorem ofText_of_decode? {name : Path} {letters : List Char}
    (read : Text.Utf8.decode? name = some letters) :
    Path.ofText (String.ofList letters) = name := by
  rw [Text.Utf8.decode?] at read
  split at read
  next same =>
    cases read
    rw [Path.ofText, Text.Utf8.bytesOf, String.toList_ofList]
    exact same
  next => cases read

/-- Every name on the way to a place is one. -/
def Regular (place : Place) : Prop := forall name, name ∈ place -> (Path.ofText name).IsName

theorem Regular.concat {place : Place} (regular : Regular place) {name : Path} {letters : List Char}
    (read : Text.Utf8.decode? name = some letters) (isName : name.IsName) :
    Regular (place ++ [String.ofList letters]) := by
  intro other member
  rcases List.mem_append.mp member with inside | last
  · exact regular other inside
  · rw [List.mem_singleton.mp last, ofText_of_decode? read]
    exact isName

theorem Regular.follow {tree : Tree} {place next : Place} {name : Path} (regular : Regular place)
    (undivided : Path.slash ∉ name) (nonempty : name ≠ [])
    (led : tree.follow place name = .ok next) : Regular next := by
  rcases follow_cases led with rfl | rfl | ⟨notDot, notDots, letters, read, rfl, _⟩
  · exact regular
  · exact fun other member => regular other (List.dropLast_subset place member)
  · exact regular.concat read ⟨nonempty, undivided, notDot, notDots⟩

/-- What is missing is neither a dot nor two. -/
theorem isName_of_missing {tree : Tree} {place : Place} {name : Path}
    (undivided : Path.slash ∉ name) (nonempty : name ≠ [])
    (missing : tree.follow place name = .error .missing) : name.IsName := by
  rw [follow] at missing
  split at missing
  · cases missing
  split at missing
  · cases missing
  split at missing
  · cases missing
  next notDot notDots => exact ⟨nonempty, undivided, notDot, notDots⟩

theorem Proper.enter? {tree changed : Tree} {place next : Place} {name : Path}
    (proper : tree.Proper) (regular : Regular place) (undivided : Path.slash ∉ name)
    (nonempty : name ≠ [])
    (entered : Tree.enter? (tree, place) name = some (changed, next)) :
    changed.Proper ∧ Regular next := by
  rw [Tree.enter?] at entered
  dsimp only at entered
  split at entered
  next reached led =>
    split at entered
    · cases entered
      exact ⟨proper, regular.follow undivided nonempty led⟩
    · cases entered
  next missing read =>
    rcases Option.map_eq_some_iff.mp entered with ⟨made, put, same⟩
    cases same
    have longer := regular.concat read (isName_of_missing undivided nonempty missing)
    exact ⟨Proper.empty.put? proper longer put, longer⟩
  next => cases entered

/-- Entering names one after the other, from a place of a proper tree, keeps the tree proper. -/
theorem Proper.enterAll {changed : Tree} {place : Place} (names : List Path) (tree : Tree)
    (start : Place) (proper : tree.Proper) (regular : Regular start)
    (named : forall name, name ∈ names -> Path.slash ∉ name ∧ name ≠ [])
    (entered : names.foldlM Tree.enter? (tree, start) = some (changed, place)) :
    changed.Proper ∧ Regular place := by
  induction names generalizing tree start with
  | nil =>
      cases entered
      exact ⟨proper, regular⟩
  | cons name rest inductionHypothesis =>
      rw [List.foldlM_cons] at entered
      rcases Option.bind_eq_some_iff.mp entered with ⟨⟨next, there⟩, first, others⟩
      rcases named name List.mem_cons_self with ⟨undivided, nonempty⟩
      rcases proper.enter? regular undivided nonempty first with ⟨nextProper, nextRegular⟩
      exact inductionHypothesis next there nextProper nextRegular
        (fun other member => named other (List.mem_cons_of_mem name member)) others

theorem Proper.makeDirectory? {tree changed : Tree} {path : Path} {place : Place}
    (proper : tree.Proper) (made : tree.makeDirectory? path = some (changed, place)) :
    changed.Proper ∧ Regular place := by
  rw [Tree.makeDirectory?] at made
  split at made
  · refine Proper.enterAll path.names tree [] proper
      (fun _ member => absurd member List.not_mem_nil) ?_ made
    intro name member
    rcases List.mem_filter.mp member with ⟨piece, led⟩
    exact ⟨Text.not_mem_of_mem_pieces piece, (Path.leadsOn_iff.mp led).1⟩
  · cases made

/-- Writing a file leaves a tree that a file system can hold. -/
theorem Proper.write? {tree changed : Tree} {path : Path} {contents : List UInt8}
    (proper : tree.Proper) (written : tree.write? path contents = some changed) :
    changed.Proper := by
  rw [Tree.write?] at written
  rcases Option.bind_eq_some_iff.mp written with ⟨name, last, written⟩
  split at written
  · cases written
  next allowed =>
    dsimp only at written
    rcases Option.bind_eq_some_iff.mp written with ⟨letters, read, written⟩
    rcases Option.bind_eq_some_iff.mp written with ⟨⟨prepared, above⟩, made, written⟩
    rcases proper.makeDirectory? made with ⟨preparedProper, regular⟩
    split at written
    · cases written
    · have isName : name.IsName := by
        simp only [Bool.or_eq_true, decide_eq_true_eq, not_or] at allowed
        rcases allowed with ⟨⟨notDot, notDots⟩, _⟩
        rcases List.mem_append.mp (List.mem_of_getLast? last) with between | asked
        · rcases List.mem_filter.mp between with ⟨piece, nonempty⟩
          exact ⟨bne_iff_ne.mp nonempty, Text.not_mem_of_mem_pieces piece, notDot, notDots⟩
        · split at asked
          · exact absurd (List.mem_singleton.mp asked) notDot
          · cases asked
      exact (Proper.file contents).put? preparedProper (regular.concat read isName) written

/-- The tree that holds some files and the directories on the way to them. -/
def ofFiles (files : List (Path × List UInt8)) : Tree :=
  files.foldl (fun tree file => (tree.write? file.1 file.2).getD tree) .empty

/-- Every tree of files is one that a file system can hold. -/
theorem proper_ofFiles (files : List (Path × List UInt8)) : (ofFiles files).Proper := by
  have along : forall (files : List (Path × List UInt8)) (tree : Tree), tree.Proper ->
      (files.foldl (fun tree file => (tree.write? file.1 file.2).getD tree) tree).Proper := by
    intro files
    induction files with
    | nil => exact fun _ proper => proper
    | cons file rest inductionHypothesis =>
        intro tree proper
        apply inductionHypothesis
        show ((tree.write? file.1 file.2).getD tree).Proper
        cases written : tree.write? file.1 file.2 with
        | none => exact proper
        | some changed => exact proper.write? written
  exact along files .empty Proper.empty

end Tree

namespace Discovery

/-! ## Findings -/

section

variable {walk : Walk} {levels : List IgnoreLevel} {place : Place} {finding : Finding}

theorem walkEntries_cons (name : String) (node : Tree) (rest : List (String × Tree)) :
    walkEntries walk levels place ((name, node) :: rest) =
      (if IgnoreLevel.leavesOut levels (walk.root ++ (place ++ [name]))
          (decide (node.kind = .directory)) then []
        else walkFrom walk levels (place ++ [name]) node) ++
      walkEntries walk levels place rest := by
  cases node <;> rw [walkEntries] <;> rfl

/-- What is found in a directory is found below one of its entries. -/
theorem mem_walkEntries {entries : List (String × Tree)}
    (member : finding ∈ walkEntries walk levels place entries) :
    exists name node, (name, node) ∈ entries ∧
      finding ∈ walkFrom walk levels (place ++ [name]) node := by
  induction entries with
  | nil =>
      rw [walkEntries] at member
      cases member
  | cons first rest inductionHypothesis =>
      rcases first with ⟨name, node⟩
      rw [walkEntries_cons] at member
      rcases List.mem_append.mp member with here | later
      · split at here
        · cases here
        · exact ⟨name, node, List.mem_cons_self, here⟩
      · rcases inductionHypothesis later with ⟨other, tree, listed, found⟩
        exact ⟨other, tree, List.mem_cons_of_mem _ listed, found⟩

/-- A finding tells what stands there.  Induction over the tree that is left to walk, with the
levels and the place generalised. -/
theorem mem_walkFrom {node : Tree} (proper : node.Proper)
    (member : finding ∈ walkFrom walk levels place node) :
    exists rest sub, finding = ⟨place ++ rest, sub.kind⟩ ∧ node.find? rest = some sub := by
  induction proper generalizing levels place with
  | file contents =>
      rw [walkFrom, List.mem_singleton] at member
      exact ⟨[], .file contents, by rw [member, List.append_nil]; rfl, rfl⟩
  | @directory entries distinct regular below inductionHypothesis =>
      rw [walkFrom, List.mem_cons] at member
      rcases member with here | inside
      · exact ⟨[], .directory entries, by rw [here, List.append_nil]; rfl, rfl⟩
      · rcases mem_walkEntries inside with ⟨name, node, listed, found⟩
        rcases inductionHypothesis name node listed found with ⟨rest, sub, shape, led⟩
        refine ⟨name :: rest, sub, by rw [shape, List.append_assoc]; rfl, ?_⟩
        rw [Tree.find?, Tree.child?, (Tree.lookup_eq_some_iff distinct).mpr listed]
        exact led

theorem prefix_of_mem_walkFrom {node : Tree} (proper : node.Proper)
    (member : finding ∈ walkFrom walk levels place node) : place <+: finding.place := by
  rcases mem_walkFrom proper member with ⟨rest, sub, rfl, _⟩
  exact List.prefix_append place rest

theorem nodup_walkEntries {entries : List (String × Tree)}
    (distinct : (entries.map Prod.fst).Nodup)
    (below : forall name node, (name, node) ∈ entries -> node.Proper)
    (once : forall name node, (name, node) ∈ entries ->
      ((walkFrom walk levels (place ++ [name]) node).map Finding.place).Nodup) :
    ((walkEntries walk levels place entries).map Finding.place).Nodup := by
  induction entries with
  | nil =>
      rw [walkEntries]
      exact List.nodup_nil
  | cons first rest inductionHypothesis =>
      rcases first with ⟨name, node⟩
      rw [List.map_cons, List.nodup_cons] at distinct
      rcases distinct with ⟨fresh, later⟩
      rw [walkEntries_cons, List.map_append, List.nodup_append]
      refine ⟨?_, ?_, ?_⟩
      · split
        · exact List.nodup_nil
        · exact once name node List.mem_cons_self
      · exact inductionHypothesis later
          (fun other tree member => below other tree (List.mem_cons_of_mem _ member))
          (fun other tree member => once other tree (List.mem_cons_of_mem _ member))
      · intro here hereMember there thereMember same
        rcases List.mem_map.mp hereMember with ⟨finding, member, rfl⟩
        rcases List.mem_map.mp thereMember with ⟨other, otherMember, rfl⟩
        rcases mem_walkEntries otherMember with ⟨otherName, tree, listed, found⟩
        split at member
        · cases member
        -- Both places go on with one name, which is an entry of its own and one of the others.
        have left := prefix_of_mem_walkFrom (below name node List.mem_cons_self) member
        have right :=
          prefix_of_mem_walkFrom (below otherName tree (List.mem_cons_of_mem _ listed)) found
        rw [same] at left
        have equal := List.prefix_of_prefix_length_le left right (by simp)
        have names := equal.eq_of_length_le (by simp)
        rcases List.cons.inj (List.append_cancel_left names) with ⟨rfl⟩
        exact fresh (List.mem_map.mpr ⟨_, listed, rfl⟩)

theorem nodup_walkFrom {node : Tree} (proper : node.Proper) :
    ((walkFrom walk levels place node).map Finding.place).Nodup := by
  induction proper generalizing levels place with
  | file contents =>
      rw [walkFrom]
      simp
  | @directory entries distinct regular below inductionHypothesis =>
      rw [walkFrom, List.map_cons, List.nodup_cons]
      constructor
      · intro member
        rcases List.mem_map.mp member with ⟨finding, inside, same⟩
        rcases mem_walkEntries inside with ⟨name, node, listed, found⟩
        have longer := (prefix_of_mem_walkFrom (below name node listed) found).length_le
        rw [same, List.length_append] at longer
        exact Nat.not_succ_le_self _ longer
      · exact nodup_walkEntries distinct below
          (fun name node listed => inductionHypothesis name node listed)

/-- Places that differ have different paths. -/
theorem nodup_entries {tree : Tree} (proper : tree.Proper) (root : Path) :
    (((walkFrom walk levels [] tree).map (Finding.entry root)).map
      (fun entry => entry.path.components)).Nodup := by
  have components : forall finding, finding ∈ walkFrom walk levels [] tree ->
      (root.below finding.place).components =
        root.components ++ finding.place.map (Path.Component.name ∘ Path.ofText) := by
    intro finding member
    rcases mem_walkFrom proper member with ⟨rest, sub, rfl, led⟩
    rw [Path.below, Path.components_descend, List.map_map]
    intro name inside
    rcases List.mem_map.mp inside with ⟨text, listed, rfl⟩
    exact proper.isName led listed
  have once : ((walkFrom walk levels [] tree).map Finding.place).Nodup := nodup_walkFrom proper
  rw [List.nodup_iff_pairwise_ne, List.pairwise_map] at once
  rw [List.map_map, List.nodup_iff_pairwise_ne, List.pairwise_map]
  apply once.imp_of_mem
  intro finding other member otherMember apart same
  have paths : (root.below finding.place).components = (root.below other.place).components := same
  rw [components finding member, components other otherMember] at paths
  apply apart
  apply (List.map_inj_right _).mp (List.append_cancel_left paths)
  intro text next equal
  exact Path.ofText_injective (Path.Component.name.inj equal)

end

/-- The walk of a tree comes across no path twice. -/
theorem nodup_walk {tree : Tree} {root : Path} {entries : List Entry} (proper : tree.Proper)
    (walked : walk tree root = entries.map Except.ok) :
    (entries.map (fun entry => entry.path.components)).Nodup := by
  have failed : forall description : String, [.error description] ≠ entries.map Except.ok := by
    intro description same
    have member : Except.error description ∈ entries.map Except.ok := by simp [← same]
    rcases List.mem_map.mp member with ⟨_, _, impossible⟩
    cases impossible
  have found : forall list : List Entry,
      (list.map .ok : List (Except String Entry)) = entries.map .ok -> list = entries :=
    fun _ same => (List.map_inj_right (fun _ _ => Except.ok.inj)).mp same
  rw [walk] at walked
  split at walked
  next => exact absurd walked (failed _)
  next place located =>
    split at walked
    next children stands =>
      dsimp only at walked
      split at walked
      next =>
        rw [← found _ (List.map_map.trans walked)]
        exact nodup_entries (proper.find? stands) root
      next => exact absurd walked (failed _)
    next =>
      rw [← found [⟨root, some .file⟩] walked]
      simp

end Discovery
end Files
end LanguageServer
