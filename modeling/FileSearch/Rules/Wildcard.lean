/-!
# Wildcards

A wildcard pattern stands for texts that slashes divide into names.  `?` and bracket expressions
stand for one character of a name, `*` for any number of them, and `**`, which must be a whole name
of the pattern, for any number of names.

`Token.read?` reads a pattern.  `Matches` says which texts it stands for and `matchesText` decides it.
-/

namespace FileSearch.Wildcard

/-- A part of a bracket expression. -/
inductive ClassItem where
  | one (c : Char)
  | range (lo hi : Char)
  deriving DecidableEq, Repr

/-- Whether a character is in a part of a bracket expression. -/
def ClassItem.contains : ClassItem → Char → Bool
  | .one a, c => a == c
  | .range lo hi, c => lo ≤ c && c ≤ hi

/-- A part of a pattern. -/
inductive Token where
  | char (c : Char)
  /-- Any character of a name. -/
  | anyChar
  /-- A character of a name that is in a class. -/
  | within (items : List ClassItem)
  /-- A character of a name that is not in a class. -/
  | except (items : List ClassItem)
  /-- Any number of characters of a name. -/
  | anyName
  /-- Any number of names. -/
  | anyPath
  deriving DecidableEq, Repr

namespace Token

/-- Whether a token stands for a single character. -/
def admits : Token → Char → Bool
  | .char a, c => a == c
  | .anyChar, c => c != '/'
  | .within items, c => c != '/' && items.any (·.contains c)
  | .except items, c => c != '/' && !items.any (·.contains c)
  | .anyName, _ | .anyPath, _ => false

/-! ## Reading -/

/-- The parts of the text between brackets. -/
def classItems : List Char → List ClassItem
  | lo :: '-' :: hi :: rest => .range lo hi :: classItems rest
  | c :: rest => .one c :: classItems rest
  | [] => []

/-- Splits a text at its first closing bracket. -/
def splitAtBracket : List Char → Option (List Char × List Char)
  | [] => none
  | c :: rest =>
    if c = ']' then some ([], rest)
    else (splitAtBracket rest).map fun (inside, after) => (c :: inside, after)

theorem length_of_splitAtBracket {cs inside after : List Char}
    (h : splitAtBracket cs = some (inside, after)) : after.length < cs.length := by
  induction cs generalizing inside after with
  | nil => simp [splitAtBracket] at h
  | cons c rest ih =>
    unfold splitAtBracket at h
    split at h
    · cases h
      simp
    · obtain ⟨⟨i, a⟩, hs, he⟩ := Option.map_eq_some_iff.1 h
      cases he
      exact Nat.lt_succ_of_lt (ih hs)

/-- Adds a token for any number of names, unless one stands there already. -/
def pushPath : List Token → List Token
  | acc@(.anyPath :: _ :: _) => acc
  | acc => .anyPath :: acc

/-- Reads on after the character `prev` with the tokens read so far in reverse order. -/
def readFrom (prev : Option Char) (cs : List Char) (acc : List Token) : Option (List Token) :=
  match cs with
  | [] => some acc.reverse
  | '?' :: rest => readFrom (some '?') rest (.anyChar :: acc)
  | '*' :: '*' :: rest =>
    if prev = none ∨ prev = some '/' then
      match rest with
      | [] => some (pushPath acc).reverse
      | c :: rest => if c = '/' then readFrom (some '/') rest (pushPath acc) else none
    else none
  | '*' :: rest => readFrom (some '*') rest (.anyName :: acc)
  | '[' :: '!' :: c :: rest =>
    match _h : splitAtBracket rest with
    | some (inside, after) => readFrom (some ']') after (.except (classItems (c :: inside)) :: acc)
    | none => none
  | '[' :: c :: rest =>
    if c = '!' then none
    else
      match _h : splitAtBracket rest with
      | some (inside, after) =>
        readFrom (some ']') after (.within (classItems (c :: inside)) :: acc)
      | none => none
  | ['['] => none
  | c :: rest => readFrom (some c) rest (.char c :: acc)
termination_by cs.length
decreasing_by
  all_goals simp only [List.length_cons]
  all_goals try have := length_of_splitAtBracket (by assumption)
  all_goals omega

/-- Reads a pattern. -/
def read? (pattern : String) : Option (List Token) := readFrom none pattern.toList []

end Token

/-! ## Matching -/

/-- The texts that a sequence of tokens stands for. -/
inductive Matches : List Token → List Char → Prop where
  | nil : Matches [] []
  | one {t : Token} {c : Char} {ts : List Token} {cs : List Char} :
    t.admits c → Matches ts cs → Matches (t :: ts) (c :: cs)
  | name {s : List Char} {ts : List Token} {cs : List Char} :
    '/' ∉ s → Matches ts cs → Matches (.anyName :: ts) (s ++ cs)
  | path {s : List Char} {ts : List Token} {cs : List Char} :
    s = [] ∨ s.getLast? = some '/' ∨ cs = [] → Matches ts cs → Matches (.anyPath :: ts) (s ++ cs)

/-- For each end of a text, whether it is a name part followed by an end that `next` allows. -/
def nameRow : List Char → List Bool → List Bool
  | c :: cs, b :: next =>
    let row := nameRow cs next
    (b || (c != '/' && row.head? == some true)) :: row
  | _, next => next

/-- For each end of a text, whether an end that `next` allows follows after at least one of its
names, or at least nothing if the text is over. -/
def laterRow : List Char → List Bool → List Bool
  | c :: cs, _ :: next =>
    let row := laterRow cs next
    ((c == '/' && next.head? == some true) || row.head? == some true) :: row
  | _, next => next

/-- For each end of a text, whether it is an admitted character followed by an end that `next`
allows. -/
def oneRow (t : Token) : List Char → List Bool → List Bool
  | c :: cs, _ :: next => (t.admits c && next.head? == some true) :: oneRow t cs next
  | _, _ => [false]

/-- For each end of a text, whether a token and then what `next` allows stands for it. -/
def Token.row (t : Token) (text : List Char) (next : List Bool) : List Bool :=
  match t with
  | .anyName => nameRow text next
  | .anyPath => List.zipWith (· || ·) next (laterRow text next)
  | _ => oneRow t text next

/-- For each end of a text, from the whole text to the empty one, whether the tokens stand for it. -/
def rows (text : List Char) : List Token → List Bool
  | [] => List.replicate text.length false ++ [true]
  | t :: ts => t.row text (rows text ts)

/-- Whether the tokens stand for a text. -/
def matchesText (ts : List Token) (text : List Char) : Bool := (rows text ts).head? == some true

end FileSearch.Wildcard
