import Tiger.Library.Cells
import Tiger.Library.Loop
import Tiger.Model.Text

/-!
# Loops that write into their buffer

Two loops of the components cell by cell: the `tok`/`tokkey` loop, which puts a zero over
every separator it comes to, and the two loops of `em350_iccid`, which put zeros over what
surrounds the number of the card. A pointer is the index of a cell, and touching a cell
that is not there is a fault.
-/

set_option autoImplicit false

namespace Tiger.Model.Buffers

open Tiger.Library

/-- The terminating zero. -/
def nul : Char := '\x00'

/-! ## The splitting loop -/

/-- `strncpy( buffer, s, n )`: at most `n` characters, and zeros up to `n` behind a shorter
text. -/
def strncpy (buffer s : List Char) (n : ℕ) : List Char :=
  s.take n ++ List.replicate (n - s.length) nul ++ buffer.drop n

/-- The places of the loop. -/
inductive Splitter where
  /-- `ppp_config_build` of `ifname/ltecon`, for either text of options. -/
  | pppopt
  /-- `_setup` of `wui/admin`, `tui/ssh` and `tui/telnet`. -/
  | manager
  /-- `zte7520_band`. -/
  | band
  /-- The lines of an answer, split where the modem's library keeps it. -/
  | answer
  deriving DecidableEq

/-- The buffer with the text in it; `buffer` is what it held before. -/
def Splitter.fill (buffer s : List Char) : Splitter → List Char
  | .pppopt => strncpy (List.replicate buffer.length nul) s (buffer.length - 1)
  | .manager => strncpy (List.replicate buffer.length nul) s (buffer.length - 1)
  -- the buffer is not cleared here
  | .band => strncpy buffer s (buffer.length - 1)
  | .answer => s ++ nul :: buffer.drop (s.length + 1)

/-- The state of the loop: the buffer, its pointers (`NULL` is `none`) and the segments its
body has seen. -/
structure Split where
  cells : List Char
  tok : Option ℕ
  tokkey : Option ℕ
  seen : List (List Char)
  deriving DecidableEq

/-- `tokkey = tok = buffer`. -/
def Split.start (cells : List Char) : Split := ⟨cells, some 0, some 0, []⟩

/-- The cells from `p` to `limit`. -/
def window (limit p : ℕ) (cells : List Char) : List Char := (cells.take (limit + 1)).drop p

/-- A zero in the cell a pointer points to. -/
def putNul (cells : List Char) : Option ℕ → List Char
  | none => cells
  | some p => cells.set p nul

/-- A turn of the loop, which may read the cells up to `limit`. -/
def splitTurn (limit : ℕ) (sep : Char) (s : Split) : Turn Split (List (List Char)) :=
  match s.tokkey with
  -- the text behind a null pointer is not looked at
  | none => .done s.seen
  | some _ =>
    match s.tok with
    | none => .fault
    | some tok =>
      match (window limit tok s.cells).head? with
      | none => .fault
      | some c =>
        if c = nul then .done s.seen
        else
          match seek nul sep (window limit tok s.cells) with
          | none => .fault
          | some found =>
            let tokkey := found.map (tok + ·)
            let cells := putNul s.cells tokkey
            match textAt nul (window limit tok cells) with
            | none => .fault
            | some segment => .again ⟨cells, tokkey.map (· + 1), tokkey, s.seen ++ [segment]⟩

/-! ## The number of the card -/

/-- The state of a trimming loop. -/
structure Trim where
  cells : List Char
  ptr : ℤ
  deriving DecidableEq

/-- The cell a pointer points to. -/
def cellAt (cells : List Char) (p : ℤ) : Option Char :=
  if p < 0 then none else cells[p.toNat]?

/-- A turn of the loop from the end. -/
def trimEndTurn (s : Trim) : Turn Trim (List Char) :=
  match cellAt s.cells s.ptr with
  | none => .fault
  | some c =>
    if c = nul then .done s.cells
    else if c.isAlphanum then .done s.cells
    else .again ⟨s.cells.set s.ptr.toNat nul, s.ptr - 1⟩

/-- A turn of the loop from the start, which gives the buffer and `start`. -/
def trimStartTurn (s : Trim) : Turn Trim (List Char × ℕ) :=
  match cellAt s.cells s.ptr with
  | none => .fault
  | some c =>
    if c = nul then .done (s.cells, 0)
    else if c.isAlphanum then .done (s.cells, s.ptr.toNat)
    else .again ⟨s.cells.set s.ptr.toNat nul, s.ptr + 1⟩

/-- `memset( iccidbuf, 0, sizeof(iccidbuf) )` and the `sscanf` that stores the token. -/
def iccidbuf (token : List Char) : List Char :=
  token ++ List.replicate (nameMax - token.length) nul

/-- Both loops end without a fault, and `iccid` is what stands at `start` then. -/
def Trims (cells iccid : List Char) : Prop :=
  ∃ text kept trimmed start, textAt nul cells = some text ∧
    Ends trimEndTurn ⟨cells, text.length - 1⟩ kept ∧
    Ends trimStartTurn ⟨kept, 0⟩ (trimmed, start) ∧
    textAt nul (trimmed.drop start) = some iccid

end Tiger.Model.Buffers
