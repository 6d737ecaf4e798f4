import Tiger.Model.AtScript

/-!
# The profile of a modem

Every driver has its own copy of the function that writes the profile of a
configuration (`profile_cfg`) into the modem. The copies read the profile in the same
way, and after a step of their own they define the main context and the additional ones
in the same way. These parts are here; the driver's own step and its encoding of the
ip type are in the module of the driver.
-/

set_option autoImplicit false

namespace Tiger.Model

/-- `strcasecmp( s, u ) == 0`. -/
def strcasecmp (s u : String) : Bool := s.toList.map Char.toLower = u.toList.map Char.toLower

/-- The context id of a profile, `"1"` when there is none. -/
def cidOf (profile : Option Talk) : String :=
  match jsonString profile "cid" with
  | none => "1"
  | some cid => if cid = "" then "1" else cid

/-- The authentication of a profile as the commands want it. -/
structure Login where
  auth : String
  user : Option String
  pass : Option String

/-- The authentication of a profile. -/
def loginOf (profile : Option Talk) : Login :=
  let user := jsonString profile "user"
  let pass := jsonString profile "passwd"
  match jsonString profile "auth" with
  | none => ⟨if given user && given pass then "1" else "0", user, pass⟩
  | some auth =>
    if auth = "" then ⟨if given user && given pass then "1" else "0", user, pass⟩
    else if auth = "pap" then ⟨"1", user, pass⟩
    else if auth = "chap" then ⟨"2", user, pass⟩
    else if auth = "papchap" then ⟨"3", user, pass⟩
    else if auth = "disable" then ⟨"0", none, none⟩
    else ⟨"1", user, pass⟩

/-- `apn?:""`. -/
def orEmpty (s : Option String) : String := s.getD ""

/-- The value of a profile setting after one more step: it succeeds when a step did. -/
def counted (ret i : Ret) : Ret := if i = .succeed then .succeed else ret

/-- The additional contexts of a profile, `NULL` when they are not enabled. -/
def cidsOf (profile : Option Talk) : List (String × Talk) :=
  if jsonString profile "cids" = some "enable" then
    entriesOf (jsonValue profile "cids_cfg")
  else []

/-- The loop over the additional contexts. -/
def setCids (profile : Option Talk) : List (String × Talk) → Ret → Op Ret
  | [], ret => pure ret
  | (cid, _) :: cids, ret =>
    relay (usbttyCgdcont cid (jsonString profile "type") (jsonString profile "apn")) fun i =>
    setCids profile cids (counted ret i)

/-- The part all drivers share: define the main context, when there is an access point, and
then the additional ones. `ret` is the value so far. -/
def setContexts (profile : Option Talk) (iptype : Option String) (ret : Ret) : Op Ret :=
  let apn := jsonString profile "apn"
  if given apn then
    relay (usbttyCgdcont (cidOf profile) iptype apn) fun i =>
    setCids profile (cidsOf profile) (counted ret i)
  else setCids profile (cidsOf profile) ret

/-- The first letter of a network mode, that of `"auto"` when none is set. -/
def modeLetter (netmode : Option String) : Char := (netmode.bind (·.toList.head?)).getD 'a'

/-- `json_unescape` of a given text, which belongs to the library; the drivers send nothing
when it fails. -/
abbrev Unescape := String → Option String

/-- The locks that are written without a look at what the modem has. -/
def blindLock (unescape : Unescape) (value : Option String) (command : String → Command) :
    Op Ret :=
  match value with
  | none => pure .failed
  | some s =>
    if s = "" then pure .failed
    else
      match unescape s with
      | none => pure .failed
      | some text => txRet (command text)

end Tiger.Model
