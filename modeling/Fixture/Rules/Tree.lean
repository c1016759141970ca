import Fixture.Fault

/-! Rule sets as trees of path segments. A key `a.b` of a rule set and a map under `a` with a key
`b` name the same node. -/
namespace Fixture

/-- The nodes of one level in order; each has a segment, a value of its own if one was given, and
the nodes below it. -/
inductive PathTree where
  | nil
  | cons (segment : String) (direct : Option Value) (children rest : PathTree)
  deriving Inhabited

namespace Value

/-- The parts of a text between its dots. -/
def segments (path : String) : List String := (path.toList.splitOn '.').map String.ofList

mutual
/-- How many segments, with those of nested maps, a value can lead down. -/
def depth : Value → Nat
  | list items => itemsDepth items
  | map entries => entriesDepth entries
  | _ => 0

def itemsDepth : List Value → Nat
  | [] => 0
  | v :: vs => max v.depth (itemsDepth vs)

def entriesDepth : List (String × Value) → Nat
  | [] => 0
  | (path, v) :: es => max ((segments path).length + v.depth) (entriesDepth es)
end

end Value

def directDepth (direct : Option Value) : Nat := (direct.map Value.depth).getD 0

namespace PathTree

def isEmpty : PathTree → Bool
  | nil => true
  | cons .. => false

def depth : PathTree → Nat
  | nil => 0
  | cons _ d c r => max (1 + max (directDepth d) c.depth) r.depth

def breadth : PathTree → Nat
  | nil => 0
  | cons _ _ _ r => r.breadth + 1

/-- Changes the node of a segment; where there is none, a bare one is added at the end. -/
def alter (segment : String) (f : Option Value → PathTree → Option Value × PathTree) :
    PathTree → PathTree
  | nil => cons segment (f none nil).1 (f none nil).2 nil
  | cons s d c r => if s = segment then cons s (f d c).1 (f d c).2 r else cons s d c (alter segment f r)

theorem depth_alter_le {segment : String} {f : Option Value → PathTree → Option Value × PathTree}
    {n : Nat} (hf : ∀ d c, directDepth d ≤ n → c.depth ≤ n →
      directDepth (f d c).1 ≤ n ∧ (f d c).2.depth ≤ n) :
    ∀ t : PathTree, t.depth ≤ n + 1 → (alter segment f t).depth ≤ n + 1
  | nil, _ => by
    have := hf none nil (by simp [directDepth]) (by simp [depth])
    simp only [alter, depth]
    omega
  | cons s d c r, h => by
    simp only [depth] at h
    simp only [alter]
    split
    · have := hf d c (by omega) (by omega)
      simp only [depth]
      omega
    · have := @depth_alter_le segment f n hf r (by omega)
      simp only [depth]
      omega

/-- Gives the node at a path a value. -/
def insert (segment : String) (value : Value) : List String → PathTree → PathTree
  | [], t => t.alter segment fun _ c => (some value, c)
  | s :: ss, t => t.alter segment fun d c => (d, insert s value ss c)

theorem depth_insert_le {value : Value} (segment : String) (path : List String) (t : PathTree) :
    (insert segment value path t).depth ≤ max t.depth (path.length + 1 + value.depth) := by
  induction path generalizing segment t with
  | nil =>
    obtain ⟨n, hn⟩ : ∃ n, max t.depth (1 + value.depth) = n + 1 :=
      ⟨max t.depth (1 + value.depth) - 1, by omega⟩
    simp only [List.length_nil, Nat.zero_add, hn, insert]
    refine depth_alter_le (fun d c hd hc => ⟨?_, hc⟩) t (by omega)
    simp only [directDepth, Option.map_some, Option.getD_some]
    omega
  | cons s ss ih =>
    obtain ⟨n, hn⟩ : ∃ n, max t.depth ((s :: ss).length + 1 + value.depth) = n + 1 :=
      ⟨max t.depth ((s :: ss).length + 1 + value.depth) - 1, by simp only [List.length_cons]; omega⟩
    rw [hn]
    simp only [List.length_cons] at hn
    refine depth_alter_le (fun d c hd hc => ⟨hd, ?_⟩) t (by omega)
    have := ih s c
    show (insert s value ss c).depth ≤ n
    omega

/-- Lays `top` over `base`: its values win, and its new nodes come after those of `base`. -/
def overlay : (base top : PathTree) → PathTree
  | base, nil => base
  | base, cons s d c r => overlay (alter s (fun d' c' => (d.or d', overlay c' c)) base) r

theorem depth_overlay_le {n : Nat} (top : PathTree) :
    ∀ base : PathTree, base.depth ≤ n → top.depth ≤ n → (overlay base top).depth ≤ n := by
  induction top generalizing n with
  | nil => intro base hb _; simpa [overlay] using hb
  | cons s d c r ihc ihr =>
    intro base hb ht
    simp only [depth] at ht
    obtain ⟨m, rfl⟩ : ∃ m, n = m + 1 := ⟨n - 1, by omega⟩
    simp only [overlay]
    refine ihr _ (depth_alter_le (fun d' c' hd hc => ⟨?_, ihc c' hc (by omega)⟩) base hb) (by omega)
    cases d with
    | none => simpa using hd
    | some v =>
      show directDepth (some v) ≤ m
      omega

end PathTree

/-- The path of a segment within a scope. -/
def joinPath (scope segment : String) : String :=
  if scope = "" then segment else scope ++ "." ++ segment

/-- The path of an item of a list. -/
def itemPath (path : String) (index : Nat) : String := path ++ "[" ++ toString index ++ "]"

/-- What a path is called that has no segments. -/
def rootPath : String := "$"

namespace PathTree

def insertPath (scope path : String) (value : Value) (t : PathTree) : Except Fault PathTree :=
  match Value.segments path with
  | [] => .error (.malformed (joinPath scope path) .emptySegment)
  | s :: ss =>
    if "" ∈ s :: ss then
      .error (.malformed (if path = "" then rootPath else joinPath scope path) .emptySegment)
    else .ok (insert s value ss t)

def insertAll (scope : String) : List (String × Value) → PathTree → Except Fault PathTree
  | [], t => .ok t
  | (path, v) :: es, t =>
    match insertPath scope path v t with
    | .ok t => insertAll scope es t
    | .error e => .error e

/-- The tree of the entries of a map. -/
def ofEntries (scope : String) (entries : List (String × Value)) : Except Fault PathTree :=
  insertAll scope entries nil

theorem depth_insertAll_le {scope : String} {es : List (String × Value)} {t u : PathTree}
    (h : insertAll scope es t = .ok u) : u.depth ≤ max t.depth (Value.entriesDepth es) := by
  induction es generalizing t with
  | nil => cases h; omega
  | cons e es ih =>
    obtain ⟨path, v⟩ := e
    simp only [insertAll, insertPath] at h
    split at h
    · rename_i w hw
      split at hw
      · cases hw
      · rename_i s ss hs
        split at hw
        · cases hw
        · cases hw
          have := ih h
          have := @depth_insert_le v s ss t
          simp only [Value.entriesDepth, hs, List.length_cons]
          omega
    · cases h

theorem depth_ofEntries_le {scope : String} {es : List (String × Value)} {t : PathTree}
    (h : ofEntries scope es = .ok t) : t.depth ≤ Value.entriesDepth es := by
  have := depth_insertAll_le h
  simp only [depth] at this
  omega

end PathTree
end Fixture
