import Portal.Accounts.Auth
import Portal.Records.Query
import Portal.Command.Output
/-! The sample content a fresh site is filled with: an administrator and a writer, five
categories, sixteen tags and four published articles, each found first and created only when
missing; then three commenters and their comments on each of the first two published
articles. The commenters are always created anew, so a second run fails on their names,
keeping what it saved before. -/
namespace Portal
namespace Sample

structure Article where
  title : String
  excerpt : String
  content : String
  category : String
  tags : List String
  readTime : Nat
  featured : Bool

def categories : List (String × String) :=
  [("Technology", "Latest tech news and insights"), ("Programming", "Programming tutorials and tips"),
    ("Web Development", "Web dev best practices"), ("Data Science", "Data analysis and machine learning"),
    ("Django", "Django framework specific content")]

def tags : List String :=
  ["python", "django", "javascript", "react", "vue", "web-dev", "tutorial", "tips", "best-practices",
    "machine-learning", "ai", "database", "api", "frontend", "backend", "devops"]

def commentTexts : List String :=
  ["Great article! This really helped me understand the concept better.",
    "Thanks for sharing this. I've been looking for a good tutorial on this topic.",
    "Excellent explanation! The examples were very clear and easy to follow."]

def articles : List Article := [
  { title := "Getting Started with Django 5.0",
    excerpt := "Learn how to build modern web applications with Django 5.0, the latest version of the popular Python web framework.",
    content := String.join [
      "Django 5.0 brings exciting new features and improvements to the web development landscape. In this comprehensive guide, we'll explore everything you need to know to get started with this powerful framework.\n",
      "\n",
      "## What's New in Django 5.0?\n",
      "\n",
      "Django 5.0 introduces several significant improvements:\n",
      "\n",
      "1. **Enhanced Performance**: Better caching and query optimization\n",
      "2. **Improved Admin Interface**: More intuitive and responsive design\n",
      "3. **Better Security**: Updated security middleware and features\n",
      "4. **Async Support**: Improved async view handling\n",
      "\n",
      "## Setting Up Your First Django Project\n",
      "\n",
      "To create a new Django project, run:\n",
      "\n",
      "```bash\n",
      "pip install django\n",
      "django-admin startproject myproject\n",
      "cd myproject\n",
      "python manage.py runserver\n",
      "```\n",
      "\n",
      "## Creating Models\n",
      "\n",
      "Models are the heart of Django applications. Here's an example:\n",
      "\n",
      "```python\n",
      "from django.db import models\n",
      "\n",
      "class Article(models.Model):\n",
      "    title = models.CharField(max_length=200)\n",
      "    content = models.TextField()\n",
      "    created_at = models.DateTimeField(auto_now_add=True)\n",
      "\n",
      "    def __str__(self):\n",
      "        return self.title\n",
      "```\n",
      "\n",
      "## Conclusion\n",
      "\n",
      "Django 5.0 is an excellent choice for web development, offering a perfect balance between power and simplicity. Start building your next project today!"]
    category := "Django", tags := ["python", "django", "web-dev", "tutorial"],
    readTime := 8, featured := true },
  { title := "Python Best Practices for 2024",
    excerpt := "Discover the latest Python best practices and patterns that every developer should know in 2024.",
    content := String.join [
      "Python continues to evolve as one of the most popular programming languages. Here are the best practices you should follow in 2024.\n",
      "\n",
      "## 1. Use Type Hints\n",
      "\n",
      "Type hints make your code more readable and maintainable:\n",
      "\n",
      "```python\n",
      "from typing import List, Dict, Optional\n",
      "\n",
      "def process_data(data: List[Dict[str, str]]) -> Optional[str]:\n",
      "    return data[0].get('name') if data else None\n",
      "```\n",
      "\n",
      "## 2. Follow PEP 8\n",
      "\n",
      "Always follow the PEP 8 style guide for consistent code formatting.\n",
      "\n",
      "## 3. Use Virtual Environments\n",
      "\n",
      "Always use virtual environments for your projects:\n",
      "\n",
      "```bash\n",
      "python -m venv myenv\n",
      "source myenv/bin/activate  # On Windows: myenv\\Scriptsctivate\n",
      "```\n",
      "\n",
      "## 4. Write Tests\n",
      "\n",
      "Test-driven development is crucial:\n",
      "\n",
      "```python\n",
      "import unittest\n",
      "\n",
      "class TestMyFunction(unittest.TestCase):\n",
      "    def test_addition(self):\n",
      "        self.assertEqual(add(2, 3), 5)\n",
      "```\n",
      "\n",
      "## Conclusion\n",
      "\n",
      "Following these best practices will make you a better Python developer."]
    category := "Programming", tags := ["python", "best-practices", "tips"],
    readTime := 6, featured := false },
  { title := "Building REST APIs with Django REST Framework",
    excerpt := "Learn how to create powerful REST APIs using Django REST Framework with practical examples.",
    content := String.join [
      "Django REST Framework (DRF) is a powerful toolkit for building Web APIs. Let's explore how to create a complete API.\n",
      "\n",
      "## Installation\n",
      "\n",
      "First, install DRF:\n",
      "\n",
      "```bash\n",
      "pip install djangorestframework\n",
      "```\n",
      "\n",
      "Add it to your INSTALLED_APPS:\n",
      "\n",
      "```python\n",
      "INSTALLED_APPS = [\n",
      "    # ...\n",
      "    'rest_framework',\n",
      "]\n",
      "```\n",
      "\n",
      "## Creating Serializers\n",
      "\n",
      "Serializers convert complex data types to native Python datatypes:\n",
      "\n",
      "```python\n",
      "from rest_framework import serializers\n",
      "from .models import Article\n",
      "\n",
      "class ArticleSerializer(serializers.ModelSerializer):\n",
      "    class Meta:\n",
      "        model = Article\n",
      "        fields = ['id', 'title', 'content', 'created_at']\n",
      "```\n",
      "\n",
      "## Creating Views\n",
      "\n",
      "DRF provides various view classes:\n",
      "\n",
      "```python\n",
      "from rest_framework import viewsets\n",
      "from .models import Article\n",
      "from .serializers import ArticleSerializer\n",
      "\n",
      "class ArticleViewSet(viewsets.ModelViewSet):\n",
      "    queryset = Article.objects.all()\n",
      "    serializer_class = ArticleSerializer\n",
      "```\n",
      "\n",
      "## URL Configuration\n",
      "\n",
      "Set up your URLs:\n",
      "\n",
      "```python\n",
      "from django.urls import path, include\n",
      "from rest_framework.routers import DefaultRouter\n",
      "from .views import ArticleViewSet\n",
      "\n",
      "router = DefaultRouter()\n",
      "router.register(r'articles', ArticleViewSet)\n",
      "\n",
      "urlpatterns = [\n",
      "    path('api/', include(router.urls)),\n",
      "]\n",
      "```\n",
      "\n",
      "## Conclusion\n",
      "\n",
      "DRF makes it easy to build robust APIs quickly and efficiently."]
    category := "Web Development", tags := ["django", "api", "backend", "tutorial"],
    readTime := 10, featured := true },
  { title := "Introduction to Machine Learning with Python",
    excerpt := "A beginner-friendly guide to getting started with machine learning using Python and scikit-learn.",
    content := String.join [
      "Machine learning is transforming how we interact with technology. This guide will help you get started.\n",
      "\n",
      "## What is Machine Learning?\n",
      "\n",
      "Machine learning is a subset of artificial intelligence that enables systems to learn and improve from experience without being explicitly programmed.\n",
      "\n",
      "## Setting Up Your Environment\n",
      "\n",
      "Install the necessary libraries:\n",
      "\n",
      "```bash\n",
      "pip install numpy pandas scikit-learn matplotlib jupyter\n",
      "```\n",
      "\n",
      "## Your First ML Model\n",
      "\n",
      "Let's create a simple classification model:\n",
      "\n",
      "```python\n",
      "from sklearn.datasets import load_iris\n",
      "from sklearn.model_selection import train_test_split\n",
      "from sklearn.ensemble import RandomForestClassifier\n",
      "from sklearn.metrics import accuracy_score\n",
      "\n",
      "# Load the dataset\n",
      "iris = load_iris()\n",
      "X, y = iris.data, iris.target\n",
      "\n",
      "# Split the data\n",
      "X_train, X_test, y_train, y_test = train_test_split(X, y, test_size=0.2)\n",
      "\n",
      "# Create and train the model\n",
      "model = RandomForestClassifier()\n",
      "model.fit(X_train, y_train)\n",
      "\n",
      "# Make predictions\n",
      "predictions = model.predict(X_test)\n",
      "print(f\"Accuracy: \x7baccuracy_score(y_test, predictions):.2f\x7d\")\n",
      "```\n",
      "\n",
      "## Key Concepts\n",
      "\n",
      "1. **Supervised Learning**: Learning from labeled data\n",
      "2. **Unsupervised Learning**: Finding patterns in unlabeled data\n",
      "3. **Features**: Input variables used to make predictions\n",
      "4. **Labels**: The output we want to predict\n",
      "\n",
      "## Next Steps\n",
      "\n",
      "- Explore more complex algorithms\n",
      "- Learn about deep learning with TensorFlow/PyTorch\n",
      "- Work on real-world projects\n",
      "\n",
      "## Conclusion\n",
      "\n",
      "Machine learning opens up exciting possibilities. Start with simple projects and gradually tackle more complex challenges."]
    category := "Data Science", tags := ["machine-learning", "ai", "python", "tutorial"],
    readTime := 12, featured := false }]

def findBy (e : Entity) (field value : String) : App (Option Obj) := do
  return (← App.all e).find? fun o => o.get field == .text value

def articleSlug (title : String) : String :=
  String.ofList (title.toLower.toList.filterMap fun c => if c = ' ' then some '-' else if c = '.' then none else some c)

def ensureAdmin : App Unit := do
  if (← findBy .user "username" "admin").isNone then
    discard <| Accounts.createUser "admin" "admin@example.com" (some "admin123")
      [("is_staff", .bool true), ("is_superuser", .bool true)]
    App.print "Created superuser: admin"

def ensureWriter : App Obj := do
  match ← findBy .user "username" "blogger" with
  | some u => pure u
  | none => do
    let o := (Obj.fresh .user (← App.now)).set "username" (.text "blogger")
    let o := ((o.set "email" (.text "blogger@example.com")).set "first_name" (.text "John")).set "last_name" (.text "Doe")
    let o ← App.save (o.set "password" (.text ""))
    let o ← App.save (o.set "password" (.text "md5$password123"))
    App.print "Created user: blogger"
    pure o

def ensureTerms : App Unit := do
  for (name, description) in categories do
    if (← findBy .category "name" name).isNone then
      let o := ((Obj.fresh .category (← App.now)).set "name" (.text name)).set "description" (.text description)
      let o ← App.save o
      App.print ("Created category: " ++ (o.get "name").toText)
  for name in tags do
    if (← findBy .tag "name" name).isNone then
      let o ← App.save ((Obj.fresh .tag (← App.now)).set "name" (.text name))
      App.print ("Created tag: " ++ (o.get "name").toText)

def linkTags (o : Obj) (names : List String) : App Unit := do
  for t in names do
    let some tag ← findBy .tag "name" t | App.fail (Fault.doesNotExist "Tag")
    match Entity.tag.model.link? "articles", tag.pk, o.pk with
    | some l, some tk, some ak =>
      let db ← App.db
      if !(db.linked l tk).contains ak then App.setDb (db.addLinks l tk [ak])
    | _, _, _ => pure ()

def ensureArticle (writer : Obj) (a : Article) : App Unit := do
  let some category ← findBy .category "name" a.category
    | App.fail (Fault.doesNotExist "Category")
  if (← findBy .article "title" a.title).isNone then
    let o := (Obj.fresh .article (← App.now)).set "title" (.text a.title)
    let o := (o.set "slug" (.text (articleSlug a.title))).set "author" (Value.ofOptNat writer.pk)
    let o := (o.set "category" (Value.ofOptNat category.pk)).set "content" (.text a.content)
    let o := (o.set "excerpt" (.text a.excerpt)).set "status" (.text "published")
    let o := (o.set "read_time_minutes" (.int a.readTime)).set "is_featured" (.bool a.featured)
    let o ← App.save o
    linkTags o a.tags
    App.print ("Created article: " ++ a.title)

def ensureArticles (writer : Obj) : App Unit := do
  for a in articles do
    ensureArticle writer a

def addComment (article : Obj) (i : Nat) (text : String) (j : Nat) : App Unit := do
  let commenter ← Accounts.createUser ("commenter_" ++ toString i ++ "_" ++ toString j)
    ("commenter" ++ toString i ++ toString j ++ "@example.com") (some "password123") []
  let existing := (← App.all .comment).find? fun c =>
    c.get "article" == Value.ofOptNat article.pk && c.get "author" == Value.ofOptNat commenter.pk &&
      c.get "content" == .text text
  if existing.isNone then
    let c := ((Obj.fresh .comment (← App.now)).set "article" (Value.ofOptNat article.pk)).set "author"
      (Value.ofOptNat commenter.pk)
    discard <| App.save ((c.set "content" (.text text)).set "is_approved" (.bool true))

def commentOn (article : Obj) (i : Nat) : App Unit := do
  for (text, j) in commentTexts.zip (List.range commentTexts.length) do
    addComment article i text j
  App.print ("Created comments for: " ++ (article.get "title").toText)

def commentOnEach (published : List Obj) : App Unit := do
  for (article, i) in published.zip (List.range published.length) do
    commentOn article i

def addComments : App Unit := do
  commentOnEach ((← App.select .article [("status", .str "published")] true).take 2)

def closing : App Unit := do
  App.print "\nSample data creation completed!"
  App.print "You can now:"
  App.print "1. Visit http://localhost:8001/blog/ to see the blog"
  App.print "2. Log in as 'blogger' with password 'password123'"
  App.print "3. Create new articles and comments"
  App.print "4. Access the admin panel at http://localhost:8001/admin/"

def ensureContent : App Unit := do
  ensureAdmin
  let writer ← ensureWriter
  ensureTerms
  ensureArticles writer

def create : App Unit := do
  ensureContent
  addComments
  closing

end Sample
end Portal
