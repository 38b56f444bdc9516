import NetInventory.Address.Network
import NetInventory.Control.Client
import NetInventory.Control.Service
import NetInventory.Main
import NetInventory.Pipeline
import NetInventory.Proofs.Address.Network
import NetInventory.Proofs.Control.Republishing
import NetInventory.Proofs.Control.Scanning
import NetInventory.Proofs.Device.Agreement
import NetInventory.Proofs.Discovery
import NetInventory.Proofs.Ingest.Balance
import NetInventory.Proofs.Ingest.Dismissal
import NetInventory.Proofs.Ingest.Replies
import NetInventory.Proofs.Ingest.Republishing
import NetInventory.Proofs.Ingest.Sightings
import NetInventory.Proofs.Ingest.Traffic
import NetInventory.Proofs.Outgoing
import NetInventory.Proofs.Publisher.Delivery
import NetInventory.Proofs.Store.Absorption
import NetInventory.Proofs.Store.Ages
import NetInventory.Proofs.Store.Announcement
import NetInventory.Proofs.Store.Commuting
import NetInventory.Proofs.Store.Conservation
import NetInventory.Proofs.Store.Filing
import NetInventory.Proofs.Store.Flows
import NetInventory.Proofs.Store.Independence
import NetInventory.Proofs.Store.Novelty
import NetInventory.Proofs.Store.Ownership
import NetInventory.Proofs.Store.Pruning
import NetInventory.Proofs.Store.Redelivery
import NetInventory.Proofs.Store.Refusal
import NetInventory.Proofs.Store.Stamping
import NetInventory.Proofs.Traffic.Retention
import NetInventory.Proofs.Traffic.Spacing
import NetInventory.Proofs.Traffic.Tallying
import NetInventory.Proofs.Traffic.Window
import NetInventory.Proofs.Bus.Following
import NetInventory.Proofs.Device.Keys
