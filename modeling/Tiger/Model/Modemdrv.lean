import Tiger.Model.Modemdrv.Ec200x
import Tiger.Model.Modemdrv.Em350
import Tiger.Model.Modemdrv.Fml610
import Tiger.Model.Modemdrv.Inne7b01
import Tiger.Model.Modemdrv.Mu609
import Tiger.Model.Modemdrv.Ne16u
import Tiger.Model.Modemdrv.Zte7520

/-!
# The modem drivers

The seven drivers as one family. Every driver has the same operations; most of them
return `terror` without a configuration (`withCfg`). `_at_dial`, which two drivers have,
is their `_at_disconnect`.
-/

set_option autoImplicit false

namespace Tiger.Model

/-- The drivers. -/
inductive Driver where
  | ec200x
  | em350
  | fml610
  | inne7b01
  | mu609
  | ne16u
  | zte7520
deriving DecidableEq

/-- The operations on an open port. -/
inductive AtOperation where
  | setup
  | off
  | shut
  | setting
  | watch
  | connect
  | connected
  | disconnect
deriving DecidableEq

/-- `if ( cfg == NULL ) return terror;` and on. -/
def withCfg (cfg : Option Talk) (op : Talk → Op Boole) : Op Boole :=
  match cfg with
  | none => pure .terror
  | some cfg => op cfg

namespace Driver

/-- `_at_setup`. -/
def atSetup : Driver → Op Boole
  | ec200x => Ec200x.atSetup
  | em350 => Em350.atSetup
  | fml610 => Fml610.atSetup
  | inne7b01 => Inne7b01.atSetup
  | mu609 => Mu609.atSetup
  | ne16u => Ne16u.atSetup
  | zte7520 => Zte7520.atSetup

/-- `_at_off`. -/
def atOff : Driver → Op Boole
  | ec200x => Ec200x.atOff
  | em350 => Em350.atOff
  | fml610 => Fml610.atOff
  | inne7b01 => Inne7b01.atOff
  | mu609 => Mu609.atOff
  | ne16u => Ne16u.atOff
  | zte7520 => Zte7520.atOff

/-- `_at_shut`. -/
def atShut : Driver → Op Boole
  | ec200x => Ec200x.atShut
  | em350 => Em350.atShut
  | fml610 => Fml610.atShut
  | inne7b01 => Inne7b01.atShut
  | mu609 => Mu609.atShut
  | ne16u => Ne16u.atShut
  | zte7520 => Zte7520.atShut

/-- `_at_setting`. -/
def atSetting (unescape : Unescape) (cfg : Option Talk) : Driver → Op Boole
  | ec200x => withCfg cfg (Ec200x.atSetting unescape)
  | em350 => withCfg cfg Em350.atSetting
  | fml610 => withCfg cfg Fml610.atSetting
  | inne7b01 => withCfg cfg Inne7b01.atSetting
  | mu609 => withCfg cfg Mu609.atSetting
  | ne16u => Ne16u.atSetting unescape cfg
  | zte7520 => withCfg cfg Zte7520.atSetting

/-- `_at_watch`. -/
def atWatch (cfg : Option Talk) : Driver → Op Boole
  | ec200x => Ec200x.atWatch cfg
  | em350 => Em350.atWatch cfg
  | fml610 => Fml610.atWatch cfg
  | inne7b01 => Inne7b01.atWatch cfg
  | mu609 => Mu609.atWatch cfg
  | ne16u => Ne16u.atWatch cfg
  | zte7520 => Zte7520.atWatch cfg

/-- `_at_connect` of a configuration. -/
def atConnect (cfg : Talk) : Driver → Op Boole
  | ec200x => Ec200x.atConnect cfg
  | em350 => Em350.atConnect cfg
  | fml610 => Fml610.atConnect cfg
  | inne7b01 => Inne7b01.atConnect cfg
  | mu609 => Mu609.atConnect cfg
  | ne16u => Ne16u.atConnect cfg
  | zte7520 => Zte7520.atConnect cfg

/-- `_at_connected`. -/
def atConnected (cfg : Option Talk) : Driver → Op Boole
  | ec200x => Ec200x.atConnected
  | em350 => withCfg cfg Em350.atConnected
  | fml610 => Fml610.atConnected
  | inne7b01 => Inne7b01.atConnected
  | mu609 => withCfg cfg Mu609.atConnected
  | ne16u => withCfg cfg Ne16u.atConnected
  | zte7520 => Zte7520.atConnected

/-- `_at_disconnect`. -/
def atDisconnect (cfg : Option Talk) : Driver → Op Boole
  | ec200x => Ec200x.atDisconnect
  | em350 => Em350.atDisconnect
  | fml610 => Fml610.atDisconnect
  | inne7b01 => Inne7b01.atDisconnect
  | mu609 => Mu609.atDisconnect
  | ne16u => withCfg cfg Ne16u.atDisconnect
  | zte7520 => Zte7520.atDisconnect

/-- An operation of a driver. -/
def script (unescape : Unescape) (cfg : Option Talk) (d : Driver) : AtOperation → Op Boole
  | .setup => withCfg cfg fun _ => d.atSetup
  | .off => d.atOff
  | .shut => d.atShut
  | .setting => d.atSetting unescape cfg
  | .watch => d.atWatch cfg
  | .connect => withCfg cfg fun cfg => d.atConnect cfg
  | .connected => d.atConnected cfg
  | .disconnect => d.atDisconnect cfg

end Driver

end Tiger.Model
