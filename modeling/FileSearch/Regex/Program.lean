import FileSearch.Regex.Look

/-!
# Programs

`Expr.code` lays an expression out as instructions, each of which names the instructions that may
follow it, the preferred one first.  `Program.ofExpr` is the whole program of an expression.
-/

namespace FileSearch.Regex

/-- One step of a search; numbers name instructions. -/
inductive Inst where
  /-- Passes a byte. -/
  | byte (b : UInt8) (next : Nat)
  /-- Passes a member of a set. -/
  | set (s : MemberSet) (next : Nat)
  /-- Goes on if the place meets a condition. -/
  | look (l : Look) (next : Nat)
  /-- Goes on in any of several ways, preferring the earlier ones. -/
  | split (nexts : List Nat)
  /-- Goes on elsewhere. -/
  | jump (next : Nat)
  /-- Ends a match. -/
  | accept
  deriving Repr, Inhabited

/-- The choice between entering a repetition once more and leaving it. -/
def Inst.loop (greedy : Bool) (enter leave : Nat) : Inst :=
  .split (if greedy then [enter, leave] else [leave, enter])

/-- Whether every match of an expression is known to take a byte. -/
def Expr.consumes (e : Expr) : Bool := e.minLength?.any (0 < ·)

mutual

/-- The number of instructions of an expression. -/
def Expr.codeSize : Expr → Nat
  | .empty | .set _ | .look _ => 1
  | .literal bs => max bs.length 1
  | .capture _ e => e.codeSize
  | .concat es => max (Expr.codeSizeAll es) 1
  | .alternation es => Expr.codeSizeAll es + 1
  | .repetition 0 none _ e => if e.consumes then e.codeSize + 1 else e.codeSize + 2
  | .repetition (n + 1) none _ e => (n + 1) * e.codeSize + 1
  | .repetition n (some m) _ e => max (n * e.codeSize + (m - n) * (e.codeSize + 1)) 1

/-- The number of instructions of several expressions. -/
def Expr.codeSizeAll : List Expr → Nat
  | [] => 0
  | e :: es => e.codeSize + Expr.codeSizeAll es

end

/-- The instructions that pass the given bytes in turn, from the instruction number `base` on. -/
def literalCode : List UInt8 → Nat → Nat → List Inst
  | [], _, next => [.jump next]
  | [b], _, next => [.byte b next]
  | b :: bs, base, next => .byte b (base + 1) :: literalCode bs (base + 1) next

/-- The numbers of the first instructions of alternatives laid out from `base` on. -/
def entries : List Expr → Nat → List Nat
  | [], _ => []
  | e :: es, base => base :: entries es (base + e.codeSize)

/-- `count` copies of a code of `size` instructions one after another, the last one followed by
`next`. -/
def copies (code : Nat → Nat → List Inst) (size count base next : Nat) : List Inst :=
  (List.range count).flatMap fun i =>
    code (base + i * size) (if i + 1 = count then next else base + (i + 1) * size)

mutual

/-- The instructions of an expression from the number `base` on, which is where it is entered;
what follows it is the instruction `next`. -/
def Expr.code : Expr → Nat → Nat → List Inst
  | .empty, _, next => [.jump next]
  | .literal bs, base, next => literalCode bs base next
  | .set s, _, next => [.set s next]
  | .look l, _, next => [.look l next]
  | .capture _ e, base, next => e.code base next
  | .concat es, base, next => Expr.codeSeq es base next
  | .alternation es, base, next => .split (entries es (base + 1)) :: Expr.codeAlt es (base + 1) next
  | .repetition 0 none greedy e, base, next =>
    if e.consumes then .loop greedy (base + 1) next :: e.code (base + 1) base
    else
      let again := base + 1 + e.codeSize
      .loop greedy (base + 1) next :: e.code (base + 1) again ++ [.loop greedy (base + 1) next]
  | .repetition (n + 1) none greedy e, base, next =>
    let size := e.codeSize
    let last := base + n * size
    let again := last + size
    copies (fun b n => e.code b n) size n base last ++ e.code last again ++ [.loop greedy last next]
  | .repetition n (some m) greedy e, base, next =>
    let size := e.codeSize
    let rest := base + n * size
    let options := copies (fun b next' => .loop greedy (b + 1) next :: e.code (b + 1) next')
      (size + 1) (m - n) rest next
    if n = 0 ∧ m ≤ n then [.jump next]
    else copies (fun b n => e.code b n) size n base (if m ≤ n then next else rest) ++ options

/-- The instructions of a sequence. -/
def Expr.codeSeq : List Expr → Nat → Nat → List Inst
  | [], _, next => [.jump next]
  | [e], base, next => e.code base next
  | e :: es, base, next => e.code base (base + e.codeSize) ++ Expr.codeSeq es (base + e.codeSize) next

/-- The instructions of alternatives. -/
def Expr.codeAlt : List Expr → Nat → Nat → List Inst
  | [], _, _ => []
  | e :: es, base, next => e.code base next ++ Expr.codeAlt es (base + e.codeSize) next

end

/-- Instructions, entered at number `0`. -/
structure Program where
  insts : Array Inst

/-- The program of an expression. -/
def Program.ofExpr (e : Expr) : Program := ⟨(e.code 0 e.codeSize ++ [Inst.accept]).toArray⟩

end FileSearch.Regex
