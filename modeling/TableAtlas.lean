import TableAtlas.Main
import TableAtlas.Project.Workspace
import TableAtlas.Proofs.DeclaredGraph
import TableAtlas.Proofs.DiagramEdges
import TableAtlas.Proofs.EntitySpelling
import TableAtlas.Proofs.PrefixStripping
import TableAtlas.Proofs.PrimaryFlags
import TableAtlas.Proofs.RoundTrip
import TableAtlas.Proofs.SchemaGraph
import TableAtlas.Proofs.StableMerge
import TableAtlas.Proofs.DescribedObject
import TableAtlas.Proofs.OutgoingEdges
import TableAtlas.Proofs.IndependentDeclarations
import TableAtlas.Proofs.InertComments
import TableAtlas.Proofs.LoadedTexts
import TableAtlas.Proofs.ConsistentObjects
import TableAtlas.Proofs.UnreadableFiles
import TableAtlas.Proofs.DualReferences
import TableAtlas.Proofs.ManifestIndependence
import TableAtlas.Proofs.BlockBodies
import TableAtlas.Proofs.MermaidIdentifiers
import TableAtlas.Proofs.UnambiguousJson
import TableAtlas.Proofs.SpelledFields
import TableAtlas.Proofs.SpelledKeys
import TableAtlas.Proofs.RelationConditions
import TableAtlas.Proofs.SpelledProperties
import TableAtlas.Proofs.SpelledRelations
import TableAtlas.Proofs.WalkedFiles
import TableAtlas.Proofs.QueriedNames
import TableAtlas.Proofs.FilteredSchema
import TableAtlas.Proofs.RetainedItems
import TableAtlas.Proofs.DeclaredKinds
import TableAtlas.Proofs.PlacedDeclarations
import TableAtlas.Proofs.WorkspaceEdits
