import CatalogIndex.Index.Builder
/-!
The configuration of a rebuild. Only a valid one makes a plan, so whatever has a plan reads pages of at least
one item and writes under a namespace.
-/
namespace CatalogIndex

structure RebuildConfig where
  pageSize : UInt64
  nameSpace : String
  mappedList : MappedList
deriving DecidableEq, Repr

namespace RebuildConfig

def ofSettings (settings : Settings) : RebuildConfig := ⟨settings.pageSize, settings.nameSpace, settings.mappedList⟩

def standard : RebuildConfig := ofSettings (Settings.standard "")

def withPageSize (config : RebuildConfig) (pageSize : UInt64) : RebuildConfig := { config with pageSize }

def withNameSpace (config : RebuildConfig) (nameSpace : String) : RebuildConfig := { config with nameSpace }

def validate (config : RebuildConfig) : Except RebuildError Unit :=
  if config.pageSize = 0 then .error (.invalidConfig "page_size must be positive")
  else if config.nameSpace = "" then .error (.invalidConfig "namespace must not be empty")
  else .ok ()

end RebuildConfig

structure Plan where
  config : RebuildConfig
  chain : Chain
  valid : config.validate = .ok ()

namespace Plan

def make (config : RebuildConfig) (chain : Chain) : Except RebuildError Plan :=
  match valid : config.validate with
  | .ok () => .ok ⟨config, chain, valid⟩
  | .error error => .error error

def builder (plan : Plan) : Builder := ⟨plan.config.nameSpace, plan.chain, plan.config.mappedList⟩

theorem pageSize_ne_zero (plan : Plan) : plan.config.pageSize ≠ 0 := by
  intro isZero
  have := plan.valid
  simp [RebuildConfig.validate, isZero] at this

end Plan
end CatalogIndex
