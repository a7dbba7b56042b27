import FeedSearch.App
import FeedSearch.Main
import FeedSearch.Search.Parallel
import FeedSearch.Proofs.Pages
import FeedSearch.Proofs.StoreReads
import FeedSearch.Proofs.CacheEntries
import FeedSearch.Proofs.SearchStages
import FeedSearch.Proofs.CacheTransparency
import FeedSearch.Proofs.ConcurrentSearches
import FeedSearch.Proofs.BreakersByName
import FeedSearch.Proofs.FetchLandings
import FeedSearch.Proofs.FetchPartition
import FeedSearch.Proofs.CrashIsolation
import FeedSearch.Proofs.BreakerStates
import FeedSearch.Proofs.BreakerRuns
import FeedSearch.Proofs.BreakerAdmission
import FeedSearch.Proofs.BreakerTransitions
import FeedSearch.Proofs.RowsOfBatches
import FeedSearch.Proofs.FailedSearches
import FeedSearch.Proofs.CacheLifetimes
import FeedSearch.Proofs.LowercaseWords
import FeedSearch.Proofs.CacheKeys
import FeedSearch.Proofs.RenamedStores
import FeedSearch.Proofs.Results
import FeedSearch.Proofs.OrdersOfEnds
import FeedSearch.Proofs.FetchTraffic
import FeedSearch.Proofs.ProviderLanes
import FeedSearch.Proofs.BreakerIsolation
import FeedSearch.Proofs.LastingIds
import FeedSearch.Proofs.CacheWriteThrough
import FeedSearch.Proofs.CacheEvictions
import FeedSearch.Proofs.CacheHistory
import FeedSearch.Proofs.FloatMagnitudes
import FeedSearch.Proofs.ConfiguredFeeds
import FeedSearch.Proofs.WantedRows
import FeedSearch.Proofs.PagesInOrder
import FeedSearch.Proofs.FailedWrites
import FeedSearch.Proofs.WhatComesFirst
import FeedSearch.Proofs.CutBatches
import FeedSearch.Proofs.ShownPages
import FeedSearch.Proofs.CoherentSettings
import FeedSearch.Proofs.JsonGrammar
import FeedSearch.Proofs.JsonTokens
import FeedSearch.Proofs.JsonTrees
import FeedSearch.Proofs.DecodedForms
import FeedSearch.Proofs.FormsWithoutNulls
import FeedSearch.Proofs.NullMembers
import FeedSearch.Proofs.CleanTitles
import FeedSearch.Proofs.CarriedDecoders
import FeedSearch.Proofs.YieldedValues
import FeedSearch.Proofs.FeedEntries
import FeedSearch.Proofs.JsonFronts
import FeedSearch.Proofs.JsonDocuments
import FeedSearch.Proofs.SwappedIds
import FeedSearch.Proofs.NumericIds
import FeedSearch.Proofs.ForeignDocuments
import FeedSearch.Proofs.RequestKeys
import FeedSearch.Proofs.WrittenRequests
import FeedSearch.Proofs.ConservedCounts
import FeedSearch.Proofs.SearchesAtOnce
import FeedSearch.Proofs.RecordTexts
import FeedSearch.Proofs.BreakerCounts
import FeedSearch.Proofs.StoreIndexes
import FeedSearch.Proofs.NormalRequests
import FeedSearch.Proofs.CacheReads
import FeedSearch.Proofs.BreakerCallers
import FeedSearch.Proofs.GapsBetweenLocks
import FeedSearch.Proofs.DoublingWaits
import FeedSearch.Proofs.FairScores
