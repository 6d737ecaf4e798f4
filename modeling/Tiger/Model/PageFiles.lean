import Tiger.Model.LteSettings
import Tiger.Model.Text

/-!
# The page files of the web interface (`wui/admin`)

Four settings name files of the pages. `_set` keeps the last component of a name, both when
it is given a whole object and when it is given one of the four keys.
-/

set_option autoImplicit false

namespace Tiger.Model.PageFiles

open Tiger.Library
open Tiger.Model.LteSettings (configSet)

/-- The keys of the files. -/
def pageKeys : List String := ["css_file", "logo_file", "login_file", "index_file"]

/-- What stands behind the last `/` of a name. -/
def fileName (start : String) : String :=
  match strrchr '/' start.toList with
  | some ptr => String.ofList ptr.tail
  | none => start

/-- A key is cut out of the object and comes back with its file name, if it has a text. -/
def cutFile (v : Option Talk) (key : String) : Option Talk :=
  match jsonValue v key with
  | none => v
  | some axp =>
    let rest := v.map (jsonDeleteAxp key)
    match xText (some axp) with
    | none => rest
    | some start => attrSet rest [key] (some (.text (fileName start)))

/-- The value `_set` gives to `config_set`, or to `config_set_string`. `attr` is `none` for
`NULL`, and a path may have no layer. -/
def storedValue (v : Option Talk) : Option (List String) → Option Talk
  | none => pageKeys.foldl cutFile v
  | some path =>
    match path.head? with
    | none => v
    | some ptr =>
      if ptr ∈ pageKeys then
        match xText v with
        | some start => some (.text (fileName start))
        | none => v
      else v

/-- The calls after a save. -/
inductive Event where
  | shut
  | setup
  deriving DecidableEq

/-- What a call of `_set` does and returns. -/
structure SetResult where
  store : Option Talk
  events : List Event
  result : Bool

/-- `_set`; `ok` says whether the save succeeds. -/
def set (ok : Bool) (v : Option Talk) (attr : Option (List String)) (store : Option Talk) :
    SetResult :=
  let saved := configSet ok store (storedValue v attr) (attr.getD [])
  ⟨saved.1, if saved.2 then [.shut, .setup] else [], saved.2⟩

end Tiger.Model.PageFiles
