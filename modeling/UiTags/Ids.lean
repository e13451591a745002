import UiTags.Random.Twister
import UiTags.Failure

/-!
# Element ids

Elements without a given id get `<prefix>_<token>`. The counter strategy numbers them from one
across the whole document; the random strategy draws a 32-bit word from a seeded Mersenne
Twister per id and writes it as eight lower-case hexadecimal digits. The seed is checked
whichever the strategy, so a seed that cannot seed a source is refused even for counting.
-/

namespace UiTags

/-- A source of element ids. -/
inductive IdSource where
  | counter (issued : Nat)
  | random (gen : Twister)
  deriving Inhabited

namespace IdSource

/-- The source for a strategy name, `counter` or `random`, and the number a seed gives, none
for a seed that cannot seed a source. -/
def create (strategy : String) (seed : Option Nat) : Except Failure IdSource :=
  if strategy != "counter" && strategy != "random" then .error (.unknownIdStrategy strategy)
  else match seed with
    | none => .error .seedType
    | some n => .ok (if strategy == "counter" then counter 0 else random (Twister.seed n))

/-- The next id for a prefix, and the source after it. -/
def next (src : IdSource) (pre : String) : String × IdSource :=
  match src with
  | counter n => (s!"{pre}_{n + 1}", counter (n + 1))
  | random gen =>
    let (w, gen) := gen.next
    (pre ++ "_" ++ String.ofList (Text.hexDigits 8 w.toNat), random gen)

/-- The ids for a list of prefixes, in order. -/
def many (src : IdSource) : List String → List String
  | [] => []
  | p :: ps =>
    let (id, src) := src.next p
    id :: many src ps

end IdSource
end UiTags
