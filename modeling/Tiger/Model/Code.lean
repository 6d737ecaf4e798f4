import Tiger.Library.Overwrite
import Tiger.Model.Misc

/-!
# What a page sends and gets (`wui/ace/api/code.js`, `he.js`)

`he.cmd` posts the commands of a page in one request, each encoded twice: `base64.encode`
over UTF-8, then `url.encode`. What comes back goes through `base64.decode`, and each
value is filed under the key of the command it answers.

A number that is `NaN`, as `charCodeAt` gives behind the end, counts as 0 in the operators on
bits; `charAt` gives the empty string there, which `indexOf` finds at 0.
-/

set_option autoImplicit false

namespace Tiger.Model.Code

open Tiger.Library Tiger.Model.Misc

/-! ## `base64` -/

namespace Base64

/-- `_keyStr`. -/
def keyStr : Js := js "ABCDEFGHIJKLMNOPQRSTUVWXYZabcdefghijklmnopqrstuvwxyz0123456789+/="

/-- `_keyStr.charAt`. -/
def charAt (n : ℕ) : Js := keyStr[n]?.toList

/-- `_keyStr.indexOf` of a unit that stands in `_keyStr`. -/
def indexOf (u : UInt16) : ℕ := keyStr.idxOf u

/-- `replace(/\r\n/g, "\n")`. -/
def replaceCrlf : Js → Js
  | c :: d :: rest =>
    if c = 13 ∧ d = 10 then 10 :: replaceCrlf rest else c :: replaceCrlf (d :: rest)
  | [c] => [c]
  | [] => []

/-- What `_utf8_encode` makes of a code unit. -/
def utf8Unit (u : UInt16) : Js :=
  let c := u.toNat
  if c < 128 then [UInt16.ofNat c]
  else if c > 127 ∧ c < 2048 then
    [UInt16.ofNat ((c >>> 6) ||| 192), UInt16.ofNat ((c &&& 63) ||| 128)]
  else
    [UInt16.ofNat ((c >>> 12) ||| 224), UInt16.ofNat (((c >>> 6) &&& 63) ||| 128),
      UInt16.ofNat ((c &&& 63) ||| 128)]

/-- `_utf8_encode`. -/
def utf8Encode (string : Js) : Js := (replaceCrlf string).flatMap utf8Unit

/-- The unit two bytes stand for. -/
def twoBytes (c c2 : ℕ) : UInt16 := UInt16.ofNat ((c &&& 31) <<< 6 ||| (c2 &&& 63))

/-- The unit three bytes stand for. -/
def threeBytes (c c2 c3 : ℕ) : UInt16 :=
  UInt16.ofNat ((c &&& 15) <<< 12 ||| (c2 &&& 63) <<< 6 ||| (c3 &&& 63))

/-- `_utf8_decode`. -/
def utf8Decode : Js → Js
  | [] => []
  | [c] =>
    if c < 128 then [c]
    else if c > 191 ∧ c < 224 then [twoBytes c.toNat 0]
    else [threeBytes c.toNat 0 0]
  | [c, c2] =>
    if c < 128 then c :: utf8Decode [c2]
    else if c > 191 ∧ c < 224 then [twoBytes c.toNat c2.toNat]
    else [threeBytes c.toNat c2.toNat 0]
  | c :: c2 :: c3 :: rest =>
    if c < 128 then c :: utf8Decode (c2 :: c3 :: rest)
    else if c > 191 ∧ c < 224 then twoBytes c.toNat c2.toNat :: utf8Decode (c3 :: rest)
    else threeBytes c.toNat c2.toNat c3.toNat :: utf8Decode rest

/-- A turn of `encode`. -/
def quad (chr1 : ℕ) (chr2 chr3 : Option ℕ) : Js :=
  let enc1 := chr1 >>> 2
  let enc2 := (chr1 &&& 3) <<< 4 ||| chr2.getD 0 >>> 4
  let enc3 :=
    if chr2 = none then 64 else (chr2.getD 0 &&& 15) <<< 2 ||| chr3.getD 0 >>> 6
  let enc4 := if chr2 = none ∨ chr3 = none then 64 else chr3.getD 0 &&& 63
  charAt enc1 ++ charAt enc2 ++ charAt enc3 ++ charAt enc4

/-- The loop of `encode`. -/
def encodeLoop : Js → Js
  | [] => []
  | [a] => quad a.toNat none none
  | [a, b] => quad a.toNat (some b.toNat) none
  | a :: b :: c :: rest => quad a.toNat (some b.toNat) (some c.toNat) ++ encodeLoop rest

/-- `encode`. -/
def encode (input : Js) : Js := encodeLoop (utf8Encode input)

/-- A turn of `decode`. -/
def triple (enc1 enc2 enc3 enc4 : ℕ) : Js :=
  let chr1 := enc1 <<< 2 ||| enc2 >>> 4
  let chr2 := (enc2 &&& 15) <<< 4 ||| enc3 >>> 2
  let chr3 := (enc3 &&& 3) <<< 6 ||| enc4
  UInt16.ofNat chr1 ::
    ((if enc3 ≠ 64 then [UInt16.ofNat chr2] else []) ++
      if enc4 ≠ 64 then [UInt16.ofNat chr3] else [])

/-- The loop of `decode`. -/
def decodeLoop : Js → Js
  | [] => []
  | [a] => triple (indexOf a) 0 0 0
  | [a, b] => triple (indexOf a) (indexOf b) 0 0
  | [a, b, c] => triple (indexOf a) (indexOf b) (indexOf c) 0
  | a :: b :: c :: d :: rest =>
    triple (indexOf a) (indexOf b) (indexOf c) (indexOf d) ++ decodeLoop rest

/-- `decode`. -/
def decode (input : Js) : Js := utf8Decode (decodeLoop (input.filter (keyStr.contains ·)))

example : encode (js "light") = js "bGlnaHQ=" ∧ decode (js "bGln aHQ=") = js "light" := by
  decide +kernel

end Base64

/-! ## `url` -/

namespace Url

/-- A digit of `toString(16)`. -/
def hexDigit (n : ℕ) : UInt16 := UInt16.ofNat (if n < 10 then 48 + n else 87 + n)

/-- `str2asc`: the last two digits of a code unit. -/
def str2asc (u : UInt16) : Js := [hexDigit (u.toNat / 16 % 16), hexDigit (u.toNat % 16)]

/-- `asc2str`. -/
def asc2str (ascasc : Option ℤ) : UInt16 := UInt16.ofNat (ascasc.getD 0 % 65536).toNat

/-- `strSpecial`. -/
def strSpecial : Js := js "!\"#$%&'()*+,/:;<=>?[]^`{|}~%"

/-- What `encode` makes of a code unit. -/
def encodeUnit (chr : UInt16) : Js :=
  let c := str2asc chr
  if (parseInt (js "0x" ++ c)).any (· > 0x7f) then unit '%' :: c ++ unit '%' :: c
  else if chr = unit ' ' then [unit '+']
  else if strSpecial.contains chr then unit '%' :: c
  else [chr]

/-- `encode`. -/
def encode (str : Js) : Js := str.flatMap encodeUnit

/-- The loop of `decode`, with the number of units that are read ahead. -/
def decodeFrom : ℕ → Js → Js
  | _, [] => []
  | ahead + 1, _ :: rest => decodeFrom ahead rest
  | 0, chr :: rest =>
    if chr = unit '+' then unit ' ' :: decodeFrom 0 rest
    else if chr = unit '%' then
      let asc := rest.take 2
      if (parseInt (js "0x" ++ asc)).any (· > 0x7f) then
        asc2str (parseInt (js "0x" ++ asc ++ (rest.drop 3).take 2)) :: decodeFrom 5 rest
      else asc2str (parseInt (js "0x" ++ asc)) :: decodeFrom 2 rest
    else chr :: decodeFrom 0 rest

/-- `decode`. -/
def decode (str : Js) : Js := decodeFrom 0 str

example : encode (js "a b/c=") = js "a+b%2fc%3d" ∧ decode (js "a+b%2fc%3d") = js "a b/c=" := by
  decide +kernel

end Url

/-! ## `he.cmd` -/

/-- `hekey` of a command. -/
def heKey (t : ℕ) : Js := if t = 0 then js "he" else js "he" ++ js (toString t)

/-- `paramter`, for the keys and values of `a` in the order of `for .. in`. -/
def paramterFrom : ℕ → List (Js × Js) → Js
  | _, [] => []
  | t, (_, command) :: a =>
    js "&" ++ heKey t ++ js "=" ++ Url.encode (Base64.encode command) ++ paramterFrom (t + 1) a

def paramter (a : List (Js × Js)) : Js := paramterFrom 0 a

/-- `heindex`: which key of `a` each `hekey` stands for. -/
def heindexFrom : ℕ → List (Js × Js) → List (Js × Js)
  | _, [] => []
  | t, (i, _) :: a => (heKey t, i) :: heindexFrom (t + 1) a

def heindex (a : List (Js × Js)) : List (Js × Js) := heindexFrom 0 a

section Answers

variable {N : Type} [NatCast N]

/-- `value`, filled from the answer: `none` where nothing was assigned, and `some none` for
`undefined`. -/
def value (a : List (Js × Js)) (callbak : Json Js N) : Js → Option (Option (Json Js N)) :=
  overwrite ((heindex a).map fun entry => (entry.2, some (property callbak entry.1))) fun _ => none

/-- An answer of the server. -/
structure Response where
  /-- There are headers at all. -/
  headers : Bool
  contentType : Option Js
  responseText : Js

/-- What `cmd` returns, or gives to `func`. -/
inductive Ret (N : Type) where
  | null
  /-- The page goes to `login.html`. -/
  | login
  | text (s : Js)
  | values (v : Js → Option (Option (Json Js N)))

/-- `cmd` without `func`, where `ajax` is what comes back for the data that is posted and
`parseJSON` that of jQuery. -/
def cmd (a : List (Js × Js)) (rebooting : Bool) (ajax : Js → Response)
    (parseJSON : Js → Json Js N) : Ret N :=
  if paramter a = [] then .null
  else
    let htmlobj := ajax (paramter a)
    if rebooting then .null
    else if ! htmlobj.headers || htmlobj.contentType = some (js "text/html") then .login
    else
      let reply := Base64.decode htmlobj.responseText
      if ! reply.contains (unit '{') then .text reply
      else
        match parseJSON reply with
        | .null => .null
        | callbak => .values (value a callbak)

end Answers

end Tiger.Model.Code
