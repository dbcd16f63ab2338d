/-!
# Limits of a dataization

What a dataization runs under. A limit is a machine word, so there is a number
of nested evaluations, `Config.levels`, that no configuration allows.
-/

set_option autoImplicit false

namespace ObjectCalculus

structure Config where
  /-- Bounds the nesting of composite evaluations and the length of one chain of
  objects. -/
  maxDepth : UInt64
  traceDataization : Bool
  deriving DecidableEq

namespace Config

def limit (config : Config) : Nat :=
  config.maxDepth.toNat

def levels : Nat := UInt64.size

theorem limit_lt_levels (config : Config) : config.limit < levels :=
  config.maxDepth.toNat_lt_size

def default : Config where
  maxDepth := 128
  traceDataization := false

end Config

end ObjectCalculus
