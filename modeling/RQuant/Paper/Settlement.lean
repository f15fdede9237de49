import RQuant.Paper.ExactlyOnce

/-!
# Settlement

Whatever calls are issued and however they end, shares settle before they are
sold.
-/

namespace RQuant.Paper.PaperBrokerStore

/-- Shares are sold on a later day than they were bought on, and for the entry
whose order bought them. -/
theorem sold_after_settlement (store : PaperBrokerStore) (calls : List Call) :
    let ledger := store.issue store.openLedger calls
    ∀ row ∈ ledger.consumptions, ∃ buy ∈ ledger.fills, ∃ sell ∈ ledger.fills,
      ∃ buyOrder sellOrder buyIntent sellIntent,
        row.lotId = buy.fillId ∧ row.fillId = sell.fillId ∧
        FillOf ledger buy buyOrder buyIntent ∧ FillOf ledger sell sellOrder sellIntent ∧
        buyIntent.payload.side = .buy ∧ sellIntent.payload.side = .sell ∧
        buyIntent.payload.tsCode = sellIntent.payload.tsCode ∧
        some buyIntent.payload.signalId = sellIntent.payload.entrySignalId ∧
        store.calendar.shanghaiDate buy.executedAt <
          store.calendar.shanghaiDate sell.executedAt := by
  intro ledger row mem
  have positions := (audited_of_issued (issued_issue store.openLedger calls)).positions
  obtain ⟨sell, sellMem, sellOrder, sellIntent, sellOf, lot, lotMem, consumed⟩ :=
    positions.consumptions row mem
  obtain ⟨buy, buyMem, buyOrder, buyIntent, buyOf, acquired⟩ := positions.lots lot lotMem
  obtain ⟨availableDate, settles, same⟩ := acquired.lot_eq
  have lotId : lot.lotId = buy.fillId := congrArg LotRow.lotId same
  have tsCode : lot.tsCode = buyIntent.payload.tsCode := congrArg LotRow.tsCode same
  have entry : lot.entrySignalId = buyIntent.payload.signalId := congrArg LotRow.entrySignalId same
  have available : lot.availableDate = availableDate := congrArg LotRow.availableDate same
  refine ⟨buy, buyMem, sell, sellMem, buyOrder, sellOrder, buyIntent, sellIntent,
    consumed.lotId.trans lotId, consumed.fillId, buyOf, sellOf, acquired.side, consumed.side,
    tsCode.symm.trans consumed.tsCode, ?_, ?_⟩
  · rw [← entry, consumed.entrySignalId]
  · exact settles.trans_le (available ▸ consumed.available)

end RQuant.Paper.PaperBrokerStore
