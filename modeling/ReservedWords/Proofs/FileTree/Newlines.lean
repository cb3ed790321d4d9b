import Mathlib.Logic.Function.Basic
import ReservedWords.Proofs.FileTree.Changes
import ReservedWords.Proofs.Text.Utf8

/-!
Other line endings. A text can be written with other characters at the ends of its lines, and a file
tree with other line endings in its files. Every such text is read as it was, so everything that is
done to the tree comes to the same and leaves, but for line endings, the same tree.
-/

namespace ReservedWords

-----------------------------------------------------------------------------------------
-- Texts
-----------------------------------------------------------------------------------------

namespace Text

/-- How the end of a line is written. -/
inductive Newline where
  | feed
  /-- A carriage return with a line feed. -/
  | pair
  /-- A carriage return alone. -/
  | single
  deriving DecidableEq, Repr

def Newline.chars : Newline → List Char
  | feed => ['\n']
  | pair => ['\r', '\n']
  | single => ['\r']

/-- A text with all its line feeds written in another way. -/
def Newline.spell (newline : Newline) (text : String) : String :=
  String.ofList (text.toList.flatMap fun c => if c = '\n' then newline.chars else [c])

/-- The bytes of a text without carriage returns, with its line feeds written in another way. All other
bytes stay. -/
def Newline.respell (newline : Newline) (content : Bytes) : Bytes :=
  match decode content with
  | .ok text => if '\r' ∈ text.toList then content else encode (newline.spell text)
  | .error _ => content

variable {text : List Char} {c : Char}

theorem normalizeNewlines_cons (other : c ≠ '\r') (text : List Char)
    : normalizeNewlines (c :: text) = c :: normalizeNewlines text := by
  rw [normalizeNewlines.eq_def]
  split
  · rename_i same
    cases same
  · rename_i same
    cases same
    exact absurd rfl other
  · rename_i same
    cases same
    rw [if_neg other]

theorem normalizeNewlines_return (single : text.head? ≠ some '\n')
    : normalizeNewlines ('\r' :: text) = '\n' :: normalizeNewlines text := by
  rw [normalizeNewlines.eq_def]
  split
  · rename_i same
    cases same
  · rename_i same
    cases same
    exact absurd rfl single
  · rename_i same
    cases same
    rw [if_pos rfl]

/-- However the line feeds of a text are written, they are read as line feeds, by induction on the
text. After a carriage return alone no line feed follows, since there is none left. -/
theorem normalizeNewlines_flatMap (newline : Newline) (plain : '\r' ∉ text)
    : normalizeNewlines (text.flatMap fun c => if c = '\n' then newline.chars else [c]) = text := by
  induction text with
  | nil => rfl
  | cons c rest ih =>
    obtain ⟨other, later⟩ := not_or.mp (mt List.mem_cons.mpr plain)
    rw [List.flatMap_cons]
    by_cases feed : c = '\n'
    · rw [if_pos feed, feed]
      cases newline with
      | feed => exact (normalizeNewlines_cons (by decide) _).trans (congrArg _ (ih later))
      | pair => exact congrArg _ (ih later)
      | single =>
        refine (normalizeNewlines_return ?_).trans (congrArg _ (ih later))
        cases rest with
        | nil => nofun
        | cons d rest => by_cases again : d = '\n' <;> simp [again, Newline.chars]
    · rw [if_neg feed]
      exact (normalizeNewlines_cons (Ne.symm other) _).trans (congrArg _ (ih later))

theorem normalizeNewlines_spell (newline : Newline) {text : String} (plain : '\r' ∉ text.toList)
    : normalizeNewlines (newline.spell text).toList = text.toList := by
  rw [Newline.spell, String.toList_ofList]
  exact normalizeNewlines_flatMap newline plain

@[simp]
theorem spell_feed (text : String) : Newline.feed.spell text = text := by
  have kept
      : (fun c => if c = '\n' then Newline.feed.chars else [c]) = fun c : Char => [c] := by
    funext c
    split
    · rename_i same
      rw [same, Newline.chars]
    · rfl
  rw [Newline.spell, kept, List.flatMap_singleton', String.ofList_toList]

@[simp]
theorem respell_feed (content : Bytes) : Newline.feed.respell content = content := by
  rw [Newline.respell]
  cases decoded : decode content with
  | error fault => rfl
  | ok text =>
    dsimp only
    rw [spell_feed, ← decode_eq_ok_iff.mp decoded, ite_self]

theorem respell_encode (newline : Newline) {text : String} (plain : '\r' ∉ text.toList)
    : newline.respell (encode text) = encode (newline.spell text) := by
  simp only [Newline.respell, decode_encode, if_neg plain]

example : Newline.pair.respell (encode "a\n\nb") = encode "a\r\n\r\nb" := by decide

/-- Bytes with other line endings have the same text, or the same fault. -/
theorem decode_respell (newline : Newline) (content : Bytes)
    : (decode (newline.respell content)).map (fun text => normalizeNewlines text.toList)
      = (decode content).map fun text => normalizeNewlines text.toList := by
  rw [Newline.respell]
  cases decoded : decode content with
  | error fault =>
    dsimp only
    rw [decoded]
  | ok text =>
    dsimp only
    split
    · rw [decoded]
    · rename_i plain
      have same := normalizeNewlines_spell .feed plain
      rw [spell_feed] at same
      rw [decode_encode, Except.map, Except.map, normalizeNewlines_spell newline plain, same]

end Text

-----------------------------------------------------------------------------------------
-- File trees
-----------------------------------------------------------------------------------------

namespace FileTree

open Text (Newline)

/-- What stands at a place, with other line endings if it is a file. -/
def Node.respell (newline : Newline) : Node → Node
  | .file content => .file (newline.respell content)
  | node => node

/-- A tree with other line endings in its files, for each place its own. -/
def respell (tree : FileTree) (newlines : Place → Newline) : FileTree :=
  { tree with
    nodes := tree.nodes.map fun (place, node) => (place, node.respell (newlines place)) }

variable {tree : FileTree} {newlines : Place → Newline} {place : Place} {node : Node}

@[simp]
theorem Node.respell_feed (node : Node) : node.respell .feed = node := by
  cases node with
  | file content => rw [respell, Text.respell_feed]
  | directory | sink => rfl

@[simp]
theorem workingDirectory_respell (tree : FileTree) (newlines : Place → Newline)
    : (tree.respell newlines).workingDirectory = tree.workingDirectory :=
  rfl

@[simp]
theorem length_nodes_respell (tree : FileTree) (newlines : Place → Newline)
    : (tree.respell newlines).nodes.length = tree.nodes.length :=
  List.length_map _

/-- The same stands everywhere, but for line endings, by induction on the nodes. -/
theorem find?_respell (tree : FileTree) (newlines : Place → Newline) (place : Place)
    : (tree.respell newlines).find? place
      = (tree.find? place).map (Node.respell (newlines place)) := by
  have looked (nodes : List (Place × Node))
      : (nodes.map fun entry => (entry.1, entry.2.respell (newlines entry.1))).lookup place
        = (nodes.lookup place).map (Node.respell (newlines place)) := by
    induction nodes with
    | nil => rfl
    | cons entry nodes ih =>
      obtain ⟨key, node⟩ := entry
      by_cases same : place = key
      · subst same
        simp only [List.map_cons, List.lookup_cons, beq_self_eq_true, Option.map_some]
      · simp only [List.map_cons, List.lookup_cons, beq_false_of_ne same, ih]
  rw [find?, find?]
  split
  · rfl
  · exact looked tree.nodes

theorem find?_respell_of_plain {text : String}
    (held : tree.find? place = some (.file (Text.encode text)))
    (plain : '\r' ∉ text.toList)
    : (tree.respell newlines).find? place
      = some (.file (Text.encode ((newlines place).spell text))) := by
  rw [find?_respell, held, Option.map_some, Node.respell, Text.respell_encode _ plain]

theorem find?_respell_of_feed (tree : FileTree) (feed : newlines place = .feed)
    : (tree.respell newlines).find? place = tree.find? place := by
  rw [find?_respell, feed]
  cases tree.find? place with
  | none => rfl
  | some node => rw [Option.map_some, Node.respell_feed]

/-- A node that is put into a tree with other line endings has its own. -/
theorem put_respell (tree : FileTree) (newlines : Place → Newline) (place : Place) (node : Node)
    : (tree.respell newlines).put place node
      = (tree.put place node).respell (Function.update newlines place .feed) := by
  have there
      : (tree.respell newlines).nodes.any (·.1 == place) = tree.nodes.any (·.1 == place) := by
    simp only [respell, List.any_map]
    rfl
  have kept (entry : Place × Node) (elsewhere : entry.1 ≠ place)
      : entry.2.respell (newlines entry.1)
        = entry.2.respell (Function.update newlines place .feed entry.1) := by
    rw [Function.update_of_ne elsewhere]
  rw [put, put, there]
  split
  · simp only [respell, List.map_map, FileTree.mk.injEq, and_true]
    refine List.map_congr_left fun entry _ => ?_
    by_cases same : entry.1 = place
    · simp [same]
    · simp [same, kept entry same]
  · rename_i absent
    have elsewhere : ∀ entry ∈ tree.nodes, entry.1 ≠ place := fun entry member same =>
      absent (List.any_eq_true.mpr ⟨entry, member, beq_iff_eq.mpr same⟩)
    simp only [respell, List.map_append, List.map_singleton, Function.update_self,
      Node.respell_feed, FileTree.mk.injEq, and_true]
    refine congrArg (· ++ _) (List.map_congr_left fun entry member => ?_)
    rw [kept entry (elsewhere entry member)]

-----------------------------------------------------------------------------------------
-- What is found in a tree
-----------------------------------------------------------------------------------------

/-- A path is followed as before, by induction on its pieces. -/
theorem follow_respell (tree : FileTree) (newlines : Place → Newline) (start : Place)
    (pieces : List String)
    : (tree.respell newlines).follow start pieces = tree.follow start pieces := by
  induction pieces generalizing start with
  | nil => rfl
  | cons piece rest ih =>
    rw [follow, follow, find?_respell]
    cases tree.find? start with
    | none => rfl
    | some node =>
      cases node with
      | directory => simp only [Option.map_some, Node.respell, ih]
      | file | sink => rfl

theorem resolve_respell (tree : FileTree) (newlines : Place → Newline) (path : String)
    : (tree.respell newlines).resolve path = tree.resolve path := by
  simp only [resolve, follow_respell, workingDirectory_respell]

theorem status_respell (tree : FileTree) (newlines : Place → Newline) (path : String)
    : (tree.respell newlines).status path
      = (tree.status path).map fun (place, node?) =>
          (place, node?.map (Node.respell (newlines place))) := by
  rw [status, status, resolve_respell]
  cases tree.resolve path with
  | error error => rfl
  | ok place =>
    simp only [bind, Except.bind, pure, Except.pure, Except.map, find?_respell]

theorem isDirectory_respell (tree : FileTree) (newlines : Place → Newline) (path : String)
    : (tree.respell newlines).isDirectory path = tree.isDirectory path := by
  rw [isDirectory, isDirectory, status_respell]
  cases tree.status path with
  | error error => rfl
  | ok found =>
    obtain ⟨place, found⟩ := found
    cases found with
    | none => rfl
    | some node => cases node <;> rfl

theorem read_respell (tree : FileTree) (newlines : Place → Newline) (path : String)
    : ∃ newline : Newline,
        (tree.respell newlines).read path = (tree.read path).map newline.respell := by
  rw [read, read, status_respell]
  cases tree.status path with
  | error error => exact ⟨.feed, rfl⟩
  | ok found =>
    obtain ⟨place, found⟩ := found
    cases found with
    | none => exact ⟨.feed, rfl⟩
    | some node =>
      cases node with
      | file content => exact ⟨newlines place, rfl⟩
      | directory | sink => exact ⟨.feed, rfl⟩

/-- A text is read as it was. -/
theorem readText_respell (tree : FileTree) (newlines : Place → Newline) (path : String)
    : (tree.respell newlines).readText path = tree.readText path := by
  obtain ⟨newline, same⟩ := read_respell tree newlines path
  rw [readText, readText, same]
  cases tree.read path with
  | error error => rfl
  | ok content =>
    have decoded := Text.decode_respell newline content
    simp only [Except.map]
    cases before : Text.decode content with
    | error fault =>
      cases after : Text.decode (newline.respell content) with
      | error other =>
        rw [before, after] at decoded
        cases decoded
        rfl
      | ok text =>
        rw [before, after] at decoded
        cases decoded
    | ok text =>
      cases after : Text.decode (newline.respell content) with
      | error other =>
        rw [before, after] at decoded
        cases decoded
      | ok other =>
        rw [before, after] at decoded
        exact congrArg (Except.ok <| String.ofList ·) (Except.ok.inj decoded)

-----------------------------------------------------------------------------------------
-- What is left of a tree
-----------------------------------------------------------------------------------------

/-- The line endings of a tree that is left: where they are no line feeds they have stayed, with what
stands there. -/
def NewlinesLeft (tree : FileTree) (newlines : Place → Newline) (left : FileTree)
    (later : Place → Newline)
    : Prop :=
  ∀ place,
    later place = .feed
    ∨ later place = newlines place ∧ left.find? place = tree.find? place

theorem NewlinesLeft.refl (tree : FileTree) (newlines : Place → Newline)
    : NewlinesLeft tree newlines tree newlines :=
  fun _ => .inr ⟨rfl, rfl⟩

theorem NewlinesLeft.trans {between left : FileTree} {middle later : Place → Newline}
    (first : NewlinesLeft tree newlines between middle)
    (second : NewlinesLeft between middle left later)
    : NewlinesLeft tree newlines left later := by
  intro place
  rcases second place with feed | ⟨stays, stands⟩
  · exact .inl feed
  · rw [stays, stands]
    exact first place

theorem NewlinesLeft.put (tree : FileTree) (newlines : Place → Newline) (place : Place) (node : Node)
    : NewlinesLeft tree newlines (tree.put place node) (Function.update newlines place .feed) := by
  intro other
  by_cases here : other = place
  · rw [here, Function.update_self]
    exact .inl rfl
  · exact .inr ⟨Function.update_of_ne here _ _, find?_put_of_ne here⟩

/-- Each place of a tree that is left is the same with other line endings, or is as it was. -/
theorem NewlinesLeft.find? {left : FileTree} {later : Place → Newline}
    (leaves : NewlinesLeft tree newlines left later) (place : Place)
    : (left.respell later).find? place = left.find? place
      ∨ left.find? place = tree.find? place
        ∧ (left.respell later).find? place = (tree.respell newlines).find? place := by
  rcases leaves place with feed | ⟨stays, stands⟩
  · exact .inl (find?_respell_of_feed left feed)
  · refine .inr ⟨stands, ?_⟩
    rw [find?_respell, find?_respell, stays, stands]

/-- A file is written alike, and with line feeds of its own. -/
theorem write_respell (tree : FileTree) (newlines : Place → Newline) (path : String)
    (content : Text.Bytes)
    : ∃ later,
        (tree.respell newlines).write path content
          = (tree.write path content).map (respell · later)
        ∧ ∀ after,
            tree.write path content = .ok after → NewlinesLeft tree newlines after later := by
  cases led : tree.resolve path with
  | error error =>
    refine ⟨newlines, ?_⟩
    rw [write_of_unresolved led,
      write_of_unresolved ((resolve_respell tree newlines path).trans led)]
    exact ⟨rfl, nofun⟩
  | ok place =>
    rw [write_of_resolve led, write_of_resolve ((resolve_respell tree newlines path).trans led),
      find?_respell]
    have written := put_respell tree newlines place (.file content)
    have leaves := NewlinesLeft.put tree newlines place (.file content)
    cases tree.find? place with
    | none => exact ⟨_, congrArg Except.ok written, fun _ same => Except.ok.inj same ▸ leaves⟩
    | some node =>
      cases node with
      | directory => exact ⟨newlines, rfl, nofun⟩
      | sink => exact ⟨newlines, rfl, fun _ same => Except.ok.inj same ▸ .refl tree newlines⟩
      | file held =>
        exact ⟨_, congrArg Except.ok written, fun _ same => Except.ok.inj same ▸ leaves⟩

/-- The tree that is left, with other line endings, and the same result. -/
def respellLeft {α : Type} (newlines : Place → Newline) (left : FileTree × α) : FileTree × α :=
  (left.1.respell newlines, left.2)

/-- What has been done to a tree, and to the same tree with other line endings: the results are the
same, and so are the trees that are left, with line endings that are left. -/
def DoneAlike {α : Type} (tree : FileTree) (newlines : Place → Newline) (done other : FileTree × α)
    : Prop :=
  ∃ later, other = respellLeft later done ∧ NewlinesLeft tree newlines done.1 later

theorem ensureLast_respell (tree : FileTree) (newlines : Place → Newline) (path : Path)
    : DoneAlike tree newlines (tree.ensureLast path) ((tree.respell newlines).ensureLast path) := by
  have kept := NewlinesLeft.refl tree newlines
  rw [ensureLast, ensureLast, makeDirectory, makeDirectory, status_respell, isDirectory_respell]
  cases tree.status path.text with
  | error error =>
    cases error with
    | embeddedNul => exact ⟨newlines, rfl, kept⟩
    | failed cause text => cases cause <;> exact ⟨newlines, rfl, kept⟩
  | ok found =>
    obtain ⟨place, found⟩ := found
    cases found with
    | none =>
      refine ⟨_, ?_, .put tree newlines place .directory⟩
      exact Prod.ext (put_respell tree newlines place .directory) rfl
    | some node => exact ⟨newlines, rfl, kept⟩

/-- Directories are made alike, by induction on the components. -/
theorem ensureFrom_respell (tree : FileTree) (newlines : Place → Newline) (root : Path.Root)
    (names : List String)
    : DoneAlike tree newlines (tree.ensureFrom root names)
        ((tree.respell newlines).ensureFrom root names) := by
  induction names with
  | nil => exact ensureLast_respell tree newlines ⟨root, []⟩
  | cons name above ih =>
    obtain ⟨middle, first, between⟩ := ih
    obtain ⟨later, last, leaves⟩ :=
      ensureLast_respell tree newlines ⟨root, (name :: above).reverse⟩
    rw [ensureFrom, ensureFrom, last, first]
    generalize tree.ensureLast ⟨root, (name :: above).reverse⟩ = ended at leaves ⊢
    generalize tree.ensureFrom root above = prepared at between ⊢
    obtain ⟨after, result⟩ := ended
    obtain ⟨upper, made⟩ := prepared
    cases result with
    | ok done => exact ⟨later, rfl, leaves⟩
    | error error =>
      cases error with
      | embeddedNul => exact ⟨later, rfl, leaves⟩
      | failed cause text =>
        cases cause with
        | missing =>
          cases made with
          | error error => exact ⟨middle, rfl, between⟩
          | ok done =>
            -- With those above it made, the directory itself is tried again.
            obtain ⟨final, again, leaves⟩ :=
              ensureLast_respell upper middle ⟨root, (name :: above).reverse⟩
            exact ⟨final, again, between.trans leaves⟩
        | alreadyExists | notDirectory | isDirectory | nameTooLong => exact ⟨later, rfl, leaves⟩

theorem ensureDirectory_respell (tree : FileTree) (newlines : Place → Newline) (path : Path)
    : DoneAlike tree newlines (tree.ensureDirectory path)
        ((tree.respell newlines).ensureDirectory path) :=
  ensureFrom_respell tree newlines path.root path.parts.reverse

end FileTree

end ReservedWords
