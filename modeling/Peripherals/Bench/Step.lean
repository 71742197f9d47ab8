import Peripherals.Bench.Basic
/-!
The steps of a script, and what they answer.
-/

set_option autoImplicit false

namespace Peripherals.Bench

/-- What is asked of a module: a document to be read, or a configuration. An edge or a polarity beside
a configuration is a document that takes the place of its own. -/
inductive Order where
  | document (v : Json)
  | adc (c : Adc.Config)
  | gpio (c : Gpio.Config) (edge : Option Json)
  | pwm (c : Pwm.Config) (polarity : Option Json)

/-- A module to be built; its backend may depend on its serial number. -/
inductive Plan where
  | adc (backend : Nat → Adc.Backend)
  | gpio (backend : Nat → Gpio.Backend)
  | pwm (backend : Nat → Pwm.Backend)

/-- A call to a module with a handle, to a pin, or to an open channel. -/
inductive Call where
  | value | level | drive (b : Bool) | release | config | name | direction | number | handle | label
  | enable | disable | isEnabled
  | setRunning (b : Bool) | setPeriod (n : UInt32) | setDuty (n : UInt32)
  | setPolarity (v : Json)
  | info | close

/-- A call to an adapter. -/
inductive Feature where
  | read | turn (name : String) (on : Bool) | isOn (name : String)
  | setValue (name : String) (v : Json) | getValue (name : String) | pin | label

/-- A look into a backend. -/
inductive Look where
  | preset (pin : UInt32) (value : Int32) | failRead | failClose
  | drive (line : UInt32) (level : Bool) | level (line : UInt32)
  | output (pin : UInt32)
  | openCount
  | calls (sorted : Bool) | fail (what : String) (skip : Nat)

/-- A call to a board. Kinds of modules are documents where they are to be read. -/
inductive BoardCall where
  | request (name store : String) | requestKind (kind : ModuleKind) (store : String)
  | release (module : String) | useCount (kind : Json) | backend (kind : Json)
  | available | isAvailable (name : String) | platform | label

/-- One step. -/
inductive Step where
  | put (e : Entry) | remove (p : Path) | show (p : Path) | tree
  | build (name : String) (p : Plan)
  | request (module store : String) (o : Order)
  | call (module handle : String) (c : Call)
  | count (module : String) | describe (module : String) | same (a b : String)
  | drop (module : String)
  | look (module : String) (l : Look)
  | own (module store : String) (o : Order) | pinCall (pin : String) (c : Call)
  | dropPin (pin : String)
  | adapt (pin : String) (scale : Option Float) | feature (adapter : String) (f : Feature)
  | dropAdapter (adapter : String)
  | board (name : String) (configuration : Json)
  /-- A board of a platform with simulated modules: for each its kind on the board, the name of its
  backend, and the kind that it really is. Platform and kinds are documents. -/
  | customBoard (name : String) (platform : Json) (offers : List (Json × String × Json))
  | boardCall (board : String) (c : BoardCall)
  | dropBoard (board : String)
  | openChannel (name : String) (p : Plan) (o : Order) | channelCall (channel : String) (c : Call)

/-- What an open channel tells of itself. -/
inductive ChannelInfo where
  | adc (backend : String) (pin : UInt32) (path : Path)
  | gpio (backend : String) (line : UInt32) (exported : Bool)
  | pwm (backend : String) (pin : UInt32) (exported : Bool)
  | simulated (backend : String) (pin : UInt32) (openCount : Nat)

/-- What a step answers. -/
inductive Answer where
  | done
  | granted (h : Handle)
  | number (n : Int)
  | real (x : Float)
  | flag (b : Bool)
  | text (s : String)
  | maybeText (s : Option String)
  | texts (s : List String)
  | document (v : Json)
  | shown (s : Option FileTree.Shown)
  | tree (entries : List (String × FileTree.Shown))
  | output (o : Option Pwm.Output)
  | module (m : ModuleRef)
  | platform (p : Platform)
  | board (platform : Platform) (offers : List (ModuleKind × Option String)) (label : String)
  | channel (i : ChannelInfo)

end Peripherals.Bench
