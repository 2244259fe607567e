import Btcr2Aggregation.Shared.Cohort

/-!
# The network registry

Block zero identifies a chain, except among the signets, which share theirs.
For these the registry holds a second block, and no two of its networks have
the same two.
-/

namespace Btcr2Aggregation

/-- `ChainBlockMarker`. -/
structure ChainBlockMarker where
  height : Nat
  hash : String
  deriving DecidableEq, Repr

/-- `NetworkConfig`, as far as it identifies and names a chain. -/
structure NetworkConfig where
  name : NetworkName
  label : String
  genesisHash : String
  distinguishingBlock : Option ChainBlockMarker
  deriving DecidableEq, Repr

def chainFingerprint (config : NetworkConfig) : String :=
  match config.distinguishingBlock with
  | some marker =>
      config.genesisHash ++ "@" ++ toString marker.height ++ ":" ++ marker.hash
  | none => config.genesisHash

namespace NetworkName

/-- The name as the text it is. -/
def text : NetworkName → String
  | .bitcoin => "bitcoin"
  | .testnet3 => "testnet3"
  | .testnet4 => "testnet4"
  | .signet => "signet"
  | .mutinynet => "mutinynet"
  | .regtest => "regtest"

theorem text_injective : Function.Injective text := by
  intro name other same
  cases name <;> cases other <;> first | rfl | (revert same; decide)

end NetworkName

/-- `Object.keys(NETWORKS)`. -/
def networkNames : List NetworkName :=
  [.bitcoin, .mutinynet, .signet, .testnet3, .testnet4, .regtest]

/-- Block zero of every signet. -/
def signetGenesisHash : String :=
  "00000008819873e925422c1ff0f99f7cc9bbb232af63a077a480a3633bee1ef6"

/-- `NETWORKS`. -/
def networks : NetworkName → NetworkConfig
  | .bitcoin =>
      { name := .bitcoin
        label := "Bitcoin mainnet"
        genesisHash :=
          "000000000019d6689c085ae165831e934ff763ae46a2a6c172b3f1b60a8ce26f"
        distinguishingBlock := none }
  | .mutinynet =>
      { name := .mutinynet
        label := "Mutinynet (signet)"
        genesisHash := signetGenesisHash
        distinguishingBlock :=
          some
            { height := 1
              hash :=
                "000002855893a0a9b24eaffc5efc770558a326fee4fc10c9da22fc19cd2954f9" } }
  | .signet =>
      { name := .signet
        label := "Signet"
        genesisHash := signetGenesisHash
        distinguishingBlock :=
          some
            { height := 1
              hash :=
                "00000086d6b2636cb2a392d45edc4ec544a10024d30141c9adf4bfd9de533b53" } }
  | .testnet3 =>
      { name := .testnet3
        label := "Testnet3"
        genesisHash :=
          "000000000933ea01ad0ee984209779baaec3ced90fa3f408719526f8d77f4943"
        distinguishingBlock := none }
  | .testnet4 =>
      { name := .testnet4
        label := "Testnet4"
        genesisHash :=
          "00000000da84f2bafbbc53dee25a72ae507ff4914b867c565be350b0da8bf043"
        distinguishingBlock := none }
  | .regtest =>
      { name := .regtest
        label := "Regtest (local)"
        genesisHash :=
          "0f9188f13cb7b2c71f2a335e3a4fc328bf5beb436012afca590b1a11466e2206"
        distinguishingBlock := none }

/-- No two networks of the registry have one fingerprint. -/
theorem chainFingerprint_injective :
    Function.Injective fun name => chainFingerprint (networks name) := by
  intro name other same
  cases name <;> cases other <;> first | rfl | (revert same; decide)

end Btcr2Aggregation
