import NativeBlock.Block.Writer

/-!
# The sample block

A fixed block of four rows for trying the report without a file: an id, a trading pair that
alternates between two symbols, a price as `Decimal(38, 8)`, and a note that is present on every
third row. It is written with the block writer, so it is also a check that writing succeeds.
-/

namespace NativeBlock

namespace Sample

def rows : Nat := 4

def pair (i : Nat) : String := if i % 2 = 0 then "BTCUSDT" else "ETHUSDT"

/-- The codec of the price column, `Decimal(38, 8)`. -/
def priceCodec : Codec := .decimal .d128 38 8 rfl (by decide)

/-- The price of row `i`, as decimal text. -/
def price (i : Nat) : String := toString (64000 + i) ++ ".12345678"

def note (i : Nat) : Option String := if i % 3 = 0 then some "fill" else none

end Sample

def sampleBlock : Except Error ByteArray := do
  let w := BlockWriter.new Workspace.default 4 Sample.rows
  let (c, w) ← w.createColumn "id" (.unsigned .w64)
  let c ← writeAll ValueWriter.write c ((List.range Sample.rows).map fun i => BitVec.ofNat _ i)
  let w ← BlockWriter.succeeded (w.commit c.slot c.written)
  let (c, w) ← w.createDictionary "pair"
  let (c, d) ← writeAll (fun st v => st.1.write st.2 v) (c, w.ws.scratch)
    ((List.range Sample.rows).map Sample.pair)
  let w ← BlockWriter.succeeded ((w.withScratch d).finishDictionary c)
  let (c, w) ← w.createColumn "price" Sample.priceCodec
  let prices : List (FixedDecimal .d128) ← (List.range Sample.rows).mapM fun i =>
    FixedDecimal.ofLiteral .d128 (Sample.price i)
  let c ← writeAll ValueWriter.write c prices
  let w ← BlockWriter.succeeded (w.commit c.slot c.written)
  let (c, w) ← w.createNullable "note" .string
  let c ← writeAll NullableWriter.write c ((List.range Sample.rows).map Sample.note)
  let w ← BlockWriter.succeeded (w.commit c.slot c.written)
  w.finish.1

end NativeBlock
