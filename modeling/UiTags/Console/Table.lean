/-!
# Box tables

A table as the command line draws it: a title centred over the table, then a box with a heavy
frame around the header row, a heavy rule under it, and light lines around the body rows. Each
column is as wide as its widest cell or header, with one space on either side; a column is
aligned left or right, its header too.

A table wider than the console is narrowed: the widest columns give up width, down to the next
widest, until the table fits (`collapse`), and if it still does not fit every column gives up an
even share (`ratioReduce`). A cell wider than its narrowed column is cut to the column, its last
character an ellipsis; the cells drawn here are single words, which the console cuts rather than
wraps.

The main statement is `center_length`: a centred title fills the width it is centred in.
-/

namespace UiTags
namespace Console

/-- A column: its header and whether its cells are aligned right. -/
structure Column where
  header : String
  right : Bool := false

/-- A text padded with spaces to a width, on the left when aligned right. -/
def pad (width : Nat) (right : Bool) (s : String) : String :=
  let fill := String.ofList (List.replicate (width - s.length) ' ')
  if right then fill ++ s else s ++ fill

/-- A text centred in a width: the spare spaces split evenly, the odd one to the right. -/
def center (width : Nat) (s : String) : String :=
  let spare := width - s.length
  String.ofList (List.replicate (spare / 2) ' ') ++ s ++
    String.ofList (List.replicate (spare - spare / 2) ' ')

/-- The width of each column. -/
def widths (cols : List Column) (rows : List (List String)) : List Nat :=
  (cols.zipIdx).map fun (c, i) =>
    rows.foldl (fun w r => max w ((r[i]?.getD "").length)) c.header.length

/-- The sum of widths. -/
def total (ws : List Nat) : Nat := ws.foldl (· + ·) 0

/-- The quotient `n / d` rounded to the nearest integer, a tie going to the even one. -/
def roundShare (n d : Nat) : Nat :=
  let q := n / d
  let r := n % d
  if 2 * r < d then q else if d < 2 * r then q + 1 else if q % 2 == 0 then q else q + 1

/-- Values reduced by shares of `total`: walking the values in order, each one with a positive
ratio (and a positive maximum) gives up its ratio's share of what is still to be taken, rounded
to the nearest integer and at most its maximum. -/
def ratioReduce (total : Nat) (ratios maximums values : List Nat) : List Nat :=
  let ratios := (ratios.zip maximums).map fun (r, m) => if m == 0 then 0 else r
  let rec go (remaining totalRatio : Nat) : List (Nat × Nat × Nat) → List Nat
    | [] => []
    | (r, m, v) :: rest =>
      if r != 0 && 0 < totalRatio then
        let d := min m (roundShare (r * remaining) totalRatio)
        (v - d) :: go (remaining - d) (totalRatio - r) rest
      else v :: go remaining totalRatio rest
  go total (Console.total ratios) (ratios.zip (maximums.zip values))

/-- Column widths (padding included) narrowed towards `limit`: while the total is over it, the
widest columns give up width, as much as the excess but no more than down to the next widest. Each
round merges the widest columns with the next widest, so a round per column is enough. -/
def collapse (limit : Nat) : Nat → List Nat → List Nat
  | 0, ws => ws
  | fuel + 1, ws =>
    let sum := total ws
    if sum == 0 || sum ≤ limit then ws
    else
      let excess := sum - limit
      let widest := ws.foldl max 0
      let next := ws.foldl (fun m w => if w != widest then max m w else m) 0
      let ratios := ws.map fun w => if w == widest then 1 else 0
      if widest == next then ws
      else
        collapse limit fuel
          (ratioReduce excess ratios (List.replicate ws.length (min excess (widest - next))) ws)

/-- The widths of columns (padding included) on a console `limit` wide: narrowed by `collapse`,
and if that is not enough, every column gives up an even share of the excess. -/
def fitWidths (limit : Nat) (ws : List Nat) : List Nat :=
  if total ws ≤ limit then ws
  else
    let narrowed := collapse limit ws.length ws
    if total narrowed ≤ limit then narrowed
    else ratioReduce (total narrowed - limit) (narrowed.map fun _ => 1) narrowed narrowed

/-- A cell cut to a width: a longer text keeps its first `width - 1` characters and ends in an
ellipsis. -/
def cut (width : Nat) (s : String) : String :=
  if s.length ≤ width then s else String.ofList ((s.toList.take (width - 1)) ++ ['…'])

/-- The width of a table with columns of these widths. -/
def tableWidth (ws : List Nat) : Nat := ws.foldl (fun t w => t + w + 3) 1

/-- A rule across the table: the left, middle and right joints and the fill. -/
def rule (ws : List Nat) (left mid right fill : Char) : String :=
  String.ofList ([left] ++ mid.toString.toList.intercalate
    (ws.map fun w => List.replicate (w + 2) fill) ++ [right])

/-- A row of cells between bars. -/
def row (ws : List Nat) (cols : List Column) (bar : Char) (cells : List String) : String :=
  let parts := (ws.zip cols).zipIdx.map fun ((w, c), i) =>
    " " ++ pad w c.right (cut w (cells[i]?.getD "")) ++ " "
  bar.toString ++ bar.toString.intercalate parts ++ bar.toString

/-- The table with its title on a console `limit` wide, each line ended by a line break. -/
def render (limit : Nat) (title : String) (cols : List Column) (rows : List (List String)) :
    String :=
  let ws := (fitWidths (limit - (cols.length + 1)) ((widths cols rows).map (· + 2))).map (· - 2)
  let lines :=
    [center (tableWidth ws) title,
     rule ws '┏' '┳' '┓' '━',
     row ws cols '┃' (cols.map (·.header)),
     rule ws '┡' '╇' '┩' '━'] ++
    rows.map (row ws cols '│') ++
    [rule ws '└' '┴' '┘' '─']
  String.join (lines.map (· ++ "\n"))

theorem center_length (width : Nat) (s : String) (h : s.length ≤ width) :
    (center width s).length = width := by
  simp [center, String.length_append]
  omega

end Console
end UiTags
